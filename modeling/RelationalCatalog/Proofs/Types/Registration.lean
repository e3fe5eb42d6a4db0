import RelationalCatalog.Types.Registry

/-!
# Which types can be registered

A type cannot be registered at its position if its name is blank or that of a type before it
(`nameFault?`). Registration goes through the list once, and the fault that it reports is the one
with the least position (`TypeRegistry.ofDescriptors_eq_error_iff`), for the index that it fills has
just the names before the type at hand (`register_cons`). So a list of types is a registry just if
no name in it is blank and all are different (`TypeRegistry.exists_ofDescriptors_iff`). This is said
of the names alone, so neither the order of the types nor what else is declared of them matters.

`TypeRegistry.registration_and_lookup` puts this together with what a registry finds.
-/

namespace RelationalCatalog

/-- What keeps the type at a position from being registered: its name is blank, or a type before it
has the same one. -/
def nameFault? (ds : List TypeDescriptor) (position : Nat) : Option RegistryError :=
  match ds[position]? with
  | none => none
  | some d =>
    if trimBlanks d.name.toList = [] then some (.emptyName position)
    else if d.name ∈ (ds.take position).map (·.name) then some (.duplicateType d.name)
    else none

theorem nameFault?_append_cons (before : List TypeDescriptor) (d : TypeDescriptor)
    (rest : List TypeDescriptor) :
    nameFault? (before ++ d :: rest) before.length =
      if isBlankText d.name then some (.emptyName before.length)
      else if d.name ∈ before.map (·.name) then some (.duplicateType d.name)
      else none := by
  have hget : (before ++ d :: rest)[before.length]? = some d := by simp
  simp only [nameFault?.eq_def, hget, List.take_left', isBlankText_iff]

section Register

variable {index index' : SortedMap Nat} {before ds : List TypeDescriptor} {error : RegistryError}

/-- Registration starts with the index of no types. -/
theorem locates_start : Locates .empty (([] : List TypeDescriptor).map (·.name)) := Locates.empty

/-- A type is refused for its fault, and else its name is indexed before the next one is looked
at. -/
theorem register_cons (h : Locates index (before.map (·.name))) (d : TypeDescriptor)
    (rest : List TypeDescriptor) :
    register before.length index (d :: rest) =
      match nameFault? (before ++ d :: rest) before.length with
      | some error => .error error
      | none => register (before ++ [d]).length (index.insert d.name before.length) rest := by
  rw [nameFault?_append_cons, register, SortedMap.exchange_eq, List.length_append,
    List.length_singleton]
  split
  · rfl
  · cases hget : index.get? d.name with
    | none => rw [if_neg (h.get?_eq_none_iff.1 hget)]
    | some position =>
      have hmem : d.name ∈ before.map (·.name) := List.mem_of_getElem? ((h _ _).1 hget)
      rw [if_pos hmem]

/-- Without a fault, the index stays one of the types gone through. -/
theorem locates_concat_of_nameFault? (h : Locates index (before.map (·.name)))
    {d : TypeDescriptor} {rest : List TypeDescriptor}
    (hfault : nameFault? (before ++ d :: rest) before.length = none) :
    Locates (index.insert d.name before.length) ((before ++ [d]).map (·.name)) := by
  rw [nameFault?_append_cons] at hfault
  have hnew : d.name ∉ before.map (·.name) := by
    intro hmem
    rw [if_pos hmem] at hfault
    split at hfault <;> cases hfault
  have hconcat := h.concat hnew
  rwa [List.length_map, ← List.map_singleton, ← List.map_append] at hconcat

/-- **The reported fault is the first one.** -/
theorem exists_first_of_register_error (h : Locates index (before.map (·.name)))
    (hr : register before.length index ds = .error error) :
    ∃ position, nameFault? (before ++ ds) position = some error ∧
      ∀ earlier, before.length ≤ earlier → earlier < position →
        nameFault? (before ++ ds) earlier = none := by
  induction ds generalizing before index with
  | nil => cases hr
  | cons d rest ih =>
    rw [register_cons h] at hr
    cases hfault : nameFault? (before ++ d :: rest) before.length with
    | some fault =>
      rw [hfault] at hr
      cases hr
      exact ⟨before.length, hfault, fun _ hle hlt => absurd hle (Nat.not_le_of_lt hlt)⟩
    | none =>
      rw [hfault] at hr
      obtain ⟨position, hposition, hfirst⟩ := ih (locates_concat_of_nameFault? h hfault) hr
      rw [← List.append_cons] at hposition hfirst
      refine ⟨position, hposition, fun earlier hle hlt => ?_⟩
      rcases Nat.eq_or_lt_of_le hle with rfl | hlater
      · exact hfault
      · have hle' : (before ++ [d]).length ≤ earlier := List.length_append ▸ hlater
        exact hfirst earlier hle' hlt

/-- Registered types have no fault. -/
theorem nameFault?_eq_none_of_register (h : Locates index (before.map (·.name)))
    (hr : register before.length index ds = .ok index') {position : Nat}
    (hle : before.length ≤ position) : nameFault? (before ++ ds) position = none := by
  induction ds generalizing before index with
  | nil =>
    have hnone : (before ++ [])[position]? = none := List.getElem?_eq_none (by simpa using hle)
    rw [nameFault?.eq_def, hnone]
  | cons d rest ih =>
    rw [register_cons h] at hr
    cases hfault : nameFault? (before ++ d :: rest) before.length with
    | some fault =>
      rw [hfault] at hr
      cases hr
    | none =>
      rw [hfault] at hr
      rcases Nat.eq_or_lt_of_le hle with rfl | hlater
      · exact hfault
      · have hle' : (before ++ [d]).length ≤ position := List.length_append ▸ hlater
        rw [List.append_cons]
        exact ih (locates_concat_of_nameFault? h hfault) hr hle'

end Register

/-! ## Registries -/

section Registry

variable {ds : List TypeDescriptor}

/-- Types have no fault just if their names are not blank and all different. -/
theorem forall_nameFault?_eq_none_iff :
    (∀ position, nameFault? ds position = none) ↔
      (∀ d ∈ ds, isBlankText d.name = false) ∧ (ds.map (·.name)).Nodup := by
  have hat {position : Nat} {d : TypeDescriptor} (hd : ds[position]? = some d) :
      nameFault? ds position = none ↔
        isBlankText d.name = false ∧ d.name ∉ (ds.take position).map (·.name) := by
    simp only [nameFault?.eq_def, hd, ← Bool.not_eq_true, isBlankText_iff]
    split <;> simp [*]
  constructor
  · intro hnone
    refine ⟨fun d hd => ?_, List.pairwise_iff_getElem.mpr fun i j hi hj hlt heq => ?_⟩
    · obtain ⟨position, hposition⟩ := List.mem_iff_getElem?.mp hd
      exact ((hat hposition).mp (hnone position)).1
    · rw [List.length_map] at hi hj
      rw [List.getElem_map, List.getElem_map] at heq
      refine ((hat (List.getElem?_eq_getElem hj)).mp (hnone j)).2 (heq ▸ ?_)
      refine List.mem_map_of_mem (List.mem_of_getElem? (i := i) ?_)
      rw [List.getElem?_take_of_lt hlt, List.getElem?_eq_getElem hi]
  · rintro ⟨hblank, hnodup⟩ position
    cases hd : ds[position]? with
    | none => rw [nameFault?.eq_def, hd]
    | some d =>
      refine (hat hd).mpr ⟨hblank d (List.mem_of_getElem? hd), fun hmem => ?_⟩
      obtain ⟨hlt, rfl⟩ := List.getElem?_eq_some_iff.mp hd
      have hsplit : ds.take position ++ ds[position] :: ds.drop (position + 1) = ds := by
        rw [← List.drop_eq_getElem_cons hlt, List.take_append_drop]
      rw [← hsplit, List.map_append, List.map_cons] at hnodup
      exact (List.nodup_append.mp hnodup).2.2 _ hmem _ List.mem_cons_self rfl

namespace TypeRegistry

/-- A registry is known by its types. -/
theorem eq_of_descriptors_eq {r r' : TypeRegistry} (h : r.descriptors = r'.descriptors) :
    r = r' := by
  have hindex : r.index = r'.index := by
    refine SortedMap.ext_get? fun name => Option.ext fun position => ?_
    rw [r.located name position, r'.located name position, h]
  cases r
  cases r'
  cases h
  cases hindex
  rfl

theorem descriptors_of_ofDescriptors {r : TypeRegistry} (h : ofDescriptors ds = .ok r) :
    r.descriptors = ds := by
  rw [ofDescriptors] at h
  split at h
  · cases h
    rfl
  · cases h

/-- **An error is that of the least position with a fault.** -/
theorem ofDescriptors_eq_error_iff {error : RegistryError} :
    ofDescriptors ds = .error error ↔
      ∃ position, nameFault? ds position = some error ∧
        ∀ earlier < position, nameFault? ds earlier = none := by
  constructor
  · intro h
    rw [ofDescriptors] at h
    split at h
    · cases h
    · rename_i error' herror
      cases h
      obtain ⟨position, hposition, hfirst⟩ :=
        exists_first_of_register_error locates_start herror
      exact ⟨position, hposition, fun earlier hlt => hfirst earlier (Nat.zero_le _) hlt⟩
  · rintro ⟨position, hposition, hfirst⟩
    rw [ofDescriptors]
    split
    · rename_i index hindex
      have hnone : nameFault? ds position = none :=
        nameFault?_eq_none_of_register locates_start hindex (Nat.zero_le _)
      rw [hnone] at hposition
      cases hposition
    · rename_i error' herror
      obtain ⟨position', hposition', hfirst'⟩ :=
        exists_first_of_register_error locates_start herror
      rw [List.nil_append] at hposition' hfirst'
      rcases Nat.lt_trichotomy position position' with hlt | rfl | hgt
      · rw [hfirst' position (Nat.zero_le _) hlt] at hposition
        cases hposition
      · exact congrArg Except.error (Option.some.inj (hposition'.symm.trans hposition))
      · rw [hfirst position' hgt] at hposition'
        cases hposition'

theorem exists_ofDescriptors_iff :
    (∃ r, ofDescriptors ds = .ok r) ↔
      (∀ d ∈ ds, isBlankText d.name = false) ∧ (ds.map (·.name)).Nodup := by
  rw [← forall_nameFault?_eq_none_iff]
  constructor
  · rintro ⟨r, hr⟩ position
    rw [ofDescriptors] at hr
    split at hr
    · rename_i index hindex
      exact nameFault?_eq_none_of_register locates_start hindex (Nat.zero_le _)
    · cases hr
  · intro hnone
    cases hr : ofDescriptors ds with
    | ok r => exact ⟨r, rfl⟩
    | error error =>
      obtain ⟨position, hposition, -⟩ := ofDescriptors_eq_error_iff.mp hr
      rw [hnone position] at hposition
      cases hposition

/-- The registry of a list of types has just these, in their order, and no blank name. -/
theorem ofDescriptors_eq_ok_iff {r : TypeRegistry} :
    ofDescriptors ds = .ok r ↔
      r.descriptors = ds ∧ ∀ d ∈ ds, isBlankText d.name = false := by
  constructor
  · intro h
    exact ⟨descriptors_of_ofDescriptors h, (exists_ofDescriptors_iff.mp ⟨r, h⟩).1⟩
  · rintro ⟨rfl, hblank⟩
    obtain ⟨r', hr'⟩ := exists_ofDescriptors_iff.mpr ⟨hblank, r.distinct⟩
    rw [hr', eq_of_descriptors_eq (descriptors_of_ofDescriptors hr')]

/-- The built-in types pass the checks that their registry is made without. -/
theorem ofDescriptors_builtinTypes : ofDescriptors builtinTypes = .ok builtin :=
  ofDescriptors_eq_ok_iff.mpr ⟨rfl, by decide⟩

/-- A registry lists the given types and finds each of them. -/
structure Exact (r : TypeRegistry) (ds : List TypeDescriptor) : Prop where
  /-- it lists just these types, in their order -/
  descriptors : r.descriptors = ds
  /-- a name finds the type that has it, at the only position of that name -/
  found : ∀ name d, r.get? name = some d ↔
    ∃ position : Nat, ds[position]? = some d ∧ d.name = name ∧
      ∀ (other : Nat) (d' : TypeDescriptor), ds[other]? = some d' → d'.name = name →
        other = position
  /-- nothing is found under a name that no type has -/
  missing : ∀ name, r.get? name = none ↔ ∀ d ∈ ds, d.name ≠ name
  /-- the index has no position outside the list -/
  inside : ∀ name position, r.index.get? name = some position → position < ds.length

/-- What an index locates is found. -/
theorem exact_descriptors (r : TypeRegistry) : r.Exact r.descriptors where
  descriptors := rfl
  found name d := by
    have hindex {position : Nat} {d : TypeDescriptor} (hd : r.descriptors[position]? = some d)
        (hname : d.name = name) : r.index.get? name = some position := by
      rw [r.located, List.getElem?_map, hd, Option.map_some, hname]
    rw [get?_eq_some_iff_getElem?]
    refine exists_congr fun position => ⟨?_, fun ⟨hd, hname, _⟩ => ⟨hd, hname⟩⟩
    rintro ⟨hd, hname⟩
    refine ⟨hd, hname, fun other d' hd' hname' => ?_⟩
    exact Option.some.inj ((hindex hd' hname').symm.trans (hindex hd hname))
  missing _ := get?_eq_none_iff
  inside name position hget := by
    have hlt := r.located.lt_length hget
    rwa [List.length_map] at hlt

/-- **Registration and look-up are exact.** Types are registered just if no name is blank when it is
trimmed and no two are equal; otherwise the error is that of the least position with a fault. What
was registered, and the built-in registry as well, lists the types as they were given and finds the
one type of a name. -/
theorem registration_and_lookup (ds : List TypeDescriptor) :
    ((∃ r, ofDescriptors ds = .ok r) ↔
      (∀ d ∈ ds, trimBlanks d.name.toList ≠ []) ∧ (ds.map (·.name)).Nodup) ∧
    (∀ error, ofDescriptors ds = .error error ↔
      ∃ position, nameFault? ds position = some error ∧
        ∀ earlier < position, nameFault? ds earlier = none) ∧
    (∀ r, ofDescriptors ds = .ok r → r.Exact ds) ∧
    builtin.Exact builtinTypes := by
  refine ⟨?_, fun error => ofDescriptors_eq_error_iff, fun r hr => ?_, exact_descriptors builtin⟩
  · have hblank (d : TypeDescriptor) :
        isBlankText d.name = false ↔ trimBlanks d.name.toList ≠ [] := by
      rw [← Bool.not_eq_true, isBlankText_iff]
    simp only [exists_ofDescriptors_iff, hblank]
  · have hexact := exact_descriptors r
    rwa [descriptors_of_ofDescriptors hr] at hexact

/-- Two types are registered. With the first of them again and a blank name behind it, the
repetition is reported. -/
theorem repeated_before_blank :
    (∃ r, ofDescriptors [⟨"Table", "", []⟩, ⟨"View", "", ["Table"]⟩] = .ok r ∧
      r.Exact [⟨"Table", "", []⟩, ⟨"View", "", ["Table"]⟩]) ∧
    ofDescriptors [⟨"Table", "", []⟩, ⟨"Table", "again", []⟩, ⟨" ", "", []⟩] =
      .error (.duplicateType "Table") := by
  obtain ⟨hregistered, -, hexact, -⟩ :=
    registration_and_lookup [⟨"Table", "", []⟩, ⟨"View", "", ["Table"]⟩]
  obtain ⟨-, herror, -⟩ :=
    registration_and_lookup [⟨"Table", "", []⟩, ⟨"Table", "again", []⟩, ⟨" ", "", []⟩]
  obtain ⟨r, hr⟩ := hregistered.mpr ⟨by decide, by decide⟩
  exact ⟨⟨r, hr, hexact r hr⟩, (herror _).mpr ⟨1, by decide, by decide⟩⟩

end TypeRegistry

end Registry

end RelationalCatalog
