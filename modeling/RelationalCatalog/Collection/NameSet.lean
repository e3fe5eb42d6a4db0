import RelationalCatalog.Collection.SortedMap

/-!
# Sets of names

A `NameSet` holds each of its names once, in strictly increasing order, so two sets with the
same members are equal and a set has one listing. The main statements are `mem_insert`, a set
after an insertion has the new name and the old ones, and `mem_ofList`.
-/

namespace RelationalCatalog

/-- The names with `name` among them, each once. -/
def insertName (name : String) : List String → List String
  | [] => [name]
  | n :: rest =>
    if name < n then name :: n :: rest
    else if name = n then n :: rest
    else n :: insertName name rest

theorem mem_insertName {name x : String} {names : List String} :
    x ∈ insertName name names ↔ x = name ∨ x ∈ names := by
  induction names with
  | nil => simp [insertName]
  | cons n rest ih =>
    rw [insertName]
    split
    · simp
    · split
      · rename_i heq
        subst heq
        simp
      · simp only [List.mem_cons, ih]
        constructor
        · rintro (h | h | h) <;> simp [h]
        · rintro (h | h | h) <;> simp [h]

theorem pairwise_insertName (name : String) {names : List String}
    (h : names.Pairwise (· < ·)) : (insertName name names).Pairwise (· < ·) := by
  induction names with
  | nil => simp [insertName]
  | cons n rest ih =>
    rw [insertName]
    split
    · rename_i hlt
      refine List.Pairwise.cons (fun x hx => ?_) h
      rcases List.mem_cons.1 hx with hx | hx
      · exact hx ▸ hlt
      · exact String.lt_trans hlt (List.rel_of_pairwise_cons h hx)
    · rename_i hnlt
      split
      · exact h
      · rename_i hne
        refine List.Pairwise.cons (fun x hx => ?_) (ih h.of_cons)
        rcases mem_insertName.1 hx with hx | hx
        · exact hx ▸ lt_of_not_lt_of_ne hnlt hne
        · exact List.rel_of_pairwise_cons h hx

/-- A set of names, listed in strictly increasing order. -/
structure NameSet where
  /-- The members, in order. -/
  names : List String
  /-- The order of the members. -/
  sorted : names.Pairwise (· < ·)
deriving DecidableEq

namespace NameSet

/-- The set without members. -/
def empty : NameSet := ⟨[], List.Pairwise.nil⟩

instance : Inhabited NameSet := ⟨empty⟩

/-- The set with `name` as a member. -/
def insert (s : NameSet) (name : String) : NameSet :=
  ⟨insertName name s.names, pairwise_insertName name s.sorted⟩

/-- Whether `name` is a member. -/
def contains (s : NameSet) (name : String) : Bool := s.names.contains name

/-- The set of the listed names. -/
def ofList (names : List String) : NameSet := names.foldl insert empty

instance : Membership String NameSet := ⟨fun s name => name ∈ s.names⟩

theorem mem_insert {s : NameSet} {name x : String} :
    x ∈ s.insert name ↔ x = name ∨ x ∈ s := mem_insertName

theorem mem_foldl_insert {names : List String} {s : NameSet} {x : String} :
    x ∈ names.foldl insert s ↔ x ∈ s ∨ x ∈ names := by
  induction names generalizing s with
  | nil => simp
  | cons n rest ih =>
    rw [List.foldl_cons, ih, mem_insert, List.mem_cons, or_comm (a := x = n), or_assoc]

/-- The set of the listed names has these names. -/
theorem mem_ofList {names : List String} {x : String} : x ∈ ofList names ↔ x ∈ names := by
  rw [ofList, mem_foldl_insert]
  exact or_iff_right List.not_mem_nil

/-- Sets with the same members are the same. -/
theorem ext_mem {s t : NameSet} (h : ∀ x, x ∈ s ↔ x ∈ t) : s = t := by
  obtain ⟨names, hsorted⟩ := s
  obtain ⟨names', hsorted'⟩ := t
  have hperm : names.Perm names' :=
    (List.perm_ext_iff_of_nodup (hsorted.imp String.ne_of_lt) (hsorted'.imp String.ne_of_lt)).2 h
  obtain rfl := hperm.eq_of_pairwise
    (fun _ _ _ _ hlt hgt => absurd (String.lt_trans hlt hgt) (String.lt_irrefl _)) hsorted hsorted'
  rfl

/-- A set is made of its listing. -/
theorem ofList_names (s : NameSet) : ofList s.names = s :=
  ext_mem fun _ => mem_ofList

@[simp] theorem contains_iff_mem {s : NameSet} {name : String} :
    s.contains name = true ↔ name ∈ s := by
  show s.names.contains name = true ↔ name ∈ s.names
  simp

end NameSet

/-- The names in increasing order, repeated ones kept side by side. -/
def sortNames (names : List String) : List String :=
  names.mergeSort (fun a b => decide (a ≤ b))

end RelationalCatalog
