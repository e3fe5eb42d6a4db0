import RelationalCatalog.Collection.SortedMap

/-!
# Positions of names

A list of different names has an index, which gives the position of each name. `Locates` is what
an index and its list have to do with each other: what is found under a name is its position and
nothing else, so a position that is found lies within the list (`Locates.lt_length`) and no name
stands there twice (`Locates.nodup`). An index is made by going through the list
(`locates_positions`) or grows with it (`Locates.concat`).
-/

namespace RelationalCatalog

/-- Whether an index has just the positions of the listed names. -/
def Locates (index : SortedMap Nat) (names : List String) : Prop :=
  ∀ name position, index.get? name = some position ↔ names[position]? = some name

namespace Locates

variable {index : SortedMap Nat} {names : List String} {name : String}

theorem empty : Locates .empty [] := by
  simp [Locates]

/-- A position that is found lies within the list. -/
theorem lt_length (h : Locates index names) {position : Nat}
    (hget : index.get? name = some position) : position < names.length :=
  (List.getElem?_eq_some_iff.1 ((h name position).1 hget)).1

/-- Nothing is found under other names. -/
theorem get?_eq_none_iff (h : Locates index names) : index.get? name = none ↔ name ∉ names := by
  rw [Option.eq_none_iff_forall_ne_some, List.mem_iff_getElem?, not_exists]
  exact forall_congr' fun position => not_congr (h name position)

/-- A new name is located behind the others. -/
theorem concat (h : Locates index names) (hnew : name ∉ names) :
    Locates (index.insert name names.length) (names ++ [name]) := by
  intro other position
  by_cases hother : other = name
  · subst hother
    rw [SortedMap.get?_insert_self, Option.some_inj]
    constructor
    · rintro rfl
      exact List.getElem?_concat_length
    · intro hget
      rw [List.getElem?_append] at hget
      split at hget
      · exact absurd (List.mem_of_getElem? hget) hnew
      · obtain ⟨hlt, -⟩ := List.getElem?_eq_some_iff.1 hget
        rw [List.length_singleton] at hlt
        omega
  · rw [SortedMap.get?_insert_of_ne _ hother, h other position, List.getElem?_append]
    split
    · rfl
    · rename_i hle
      have hnone : names[position]? = none := List.getElem?_eq_none (Nat.le_of_not_lt hle)
      have hne : [name][position - names.length]? ≠ some other := fun hget =>
        hother (List.mem_singleton.1 (List.mem_of_getElem? hget))
      simp [hnone, hne]

/-- A list with an index has each name once. -/
theorem nodup (h : Locates index names) : names.Nodup := by
  refine List.pairwise_iff_getElem.2 fun i j hi hj hlt heq => ?_
  have hfirst := (h names[i] i).2 (List.getElem?_eq_getElem hi)
  have hsecond := (h names[i] j).2 (heq ▸ List.getElem?_eq_getElem hj)
  exact Nat.ne_of_lt hlt (Option.some.inj (hfirst.symm.trans hsecond))

/-- Going through further names, all of them new, adds their positions. -/
theorem foldl_insert (h : Locates index names) {rest : List String}
    (hnodup : (names ++ rest).Nodup) :
    Locates ((rest.zipIdx names.length).foldl (fun index e => index.insert e.1 e.2) index)
      (names ++ rest) := by
  induction rest generalizing names index with
  | nil => rwa [List.append_nil]
  | cons name rest ih =>
    have hnew : name ∉ names := fun hmem =>
      (List.nodup_append.1 hnodup).2.2 name hmem name List.mem_cons_self rfl
    rw [List.append_cons] at hnodup ⊢
    have hlater := ih (h.concat hnew) hnodup
    rwa [List.length_append, List.length_singleton] at hlater

end Locates

/-- The index of a list of names; of equal names, the last counts. -/
def positions (names : List String) : SortedMap Nat :=
  names.zipIdx.foldl (fun index e => index.insert e.1 e.2) .empty

/-- The index of different names locates them. -/
theorem locates_positions {names : List String} (h : names.Nodup) :
    Locates (positions names) names :=
  Locates.empty.foldl_insert h

end RelationalCatalog
