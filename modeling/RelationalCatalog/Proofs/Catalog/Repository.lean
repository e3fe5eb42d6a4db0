import RelationalCatalog.Catalog.Repository

/-!
# The entities of a store

`EntityStore.get?_eq_some_iff` says what a store has under an identifier: the entity in it with
that identifier. It rests on both invariants of a store, that an entity is stored under its own
identifier and that an identifier is there only once. The entities that are found are therefore
also those that are fetched by their identifiers (`EntityStore.fetch_of_mem_find`), and the
identifiers of the entities of some types are in order (`EntityStore.pairwise_guidsOf`).
-/

namespace RelationalCatalog

namespace EntityStore

variable {s : EntityStore} {e : Entity}

/-- An entity is stored once, under its own identifier. -/
theorem get?_eq_some_iff {guid : String} :
    s.get? guid = some e ↔ e ∈ s.entities.values ∧ e.guid = guid := by
  rw [get?, SortedMap.get?_eq_some_iff, SortedMap.values]
  constructor
  · intro h
    exact ⟨List.mem_map.mpr ⟨_, h, rfl⟩, s.keyed _ h⟩
  · rintro ⟨hmem, rfl⟩
    obtain ⟨entry, hentry, rfl⟩ := List.mem_map.mp hmem
    rw [s.keyed entry hentry]
    exact hentry

/-- Stores that have the same under every identifier are the same. -/
theorem ext_get? {s t : EntityStore} (h : ∀ guid, s.get? guid = t.get? guid) : s = t := by
  obtain ⟨entities, hkeyed⟩ := s
  obtain ⟨entities', hkeyed'⟩ := t
  obtain rfl : entities = entities' := SortedMap.ext_get? h
  rfl

theorem mem_ofTypes {typeNames : List String} :
    e ∈ s.ofTypes typeNames ↔ e ∈ s.entities.values ∧ e.typeName ∈ typeNames := by
  rw [ofTypes, List.mem_filter, List.contains_iff_mem]

theorem length_ofTypes_le (s : EntityStore) (typeNames : List String) :
    (s.ofTypes typeNames).length ≤ s.size := by
  have hvalues : s.entities.values.length = s.size := List.length_map _
  rw [ofTypes, ← hvalues]
  exact List.length_filter_le _ _

/-- An entity of the listed types is what is stored under its identifier. -/
theorem get?_of_mem_ofTypes {typeNames : List String} (h : e ∈ s.ofTypes typeNames) :
    s.get? e.guid = some e :=
  get?_eq_some_iff.mpr ⟨(mem_ofTypes.mp h).1, rfl⟩

/-- What is found is stored and of a listed type. -/
theorem mem_ofTypes_of_mem_find {typeNames : List String} {startFrom pageSize : UInt64}
    (h : e ∈ s.find typeNames startFrom pageSize) : e ∈ s.ofTypes typeNames :=
  List.mem_of_mem_drop (List.mem_of_mem_take h)

theorem get?_of_mem_find {typeNames : List String} {startFrom pageSize : UInt64}
    (h : e ∈ s.find typeNames startFrom pageSize) : s.get? e.guid = some e :=
  get?_of_mem_ofTypes (mem_ofTypes_of_mem_find h)

theorem fetch_eq_ok_iff {guid : String} : s.fetch guid = .ok e ↔ s.get? guid = some e := by
  rw [fetch]
  cases s.get? guid with
  | none => exact ⟨fun h => (by cases h), fun h => (by cases h)⟩
  | some e' => rw [Except.ok.injEq, Option.some.injEq]

/-- What is found is fetched by its identifier. -/
theorem fetch_of_mem_find {typeNames : List String} {startFrom pageSize : UInt64}
    (h : e ∈ s.find typeNames startFrom pageSize) : s.fetch e.guid = .ok e :=
  fetch_eq_ok_iff.mpr (get?_of_mem_find h)

/-! ## Identifiers -/

/-- The identifiers of the entities of the listed types, in their order. -/
def guidsOf (s : EntityStore) (typeNames : List String) : List String :=
  (s.ofTypes typeNames).map (·.guid)

theorem guidsOf_eq (s : EntityStore) (typeNames : List String) :
    s.guidsOf typeNames =
      (s.entities.entries.filter fun x => typeNames.contains x.2.typeName).map (·.1) := by
  rw [guidsOf, ofTypes, SortedMap.values, List.filter_map, List.map_map]
  apply List.map_congr_left
  intro x hx
  exact s.keyed x (List.mem_filter.mp hx).1

/-- The identifiers stand in strictly increasing order. -/
theorem pairwise_guidsOf (s : EntityStore) (typeNames : List String) :
    (s.guidsOf typeNames).Pairwise (· < ·) := by
  rw [guidsOf_eq, List.pairwise_map]
  exact s.entities.sorted.filter _

end EntityStore

end RelationalCatalog
