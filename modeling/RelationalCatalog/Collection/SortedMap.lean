/-!
# Maps ordered by their keys

A `SortedMap β` is a finite map from names to values of `β`, kept as the list of its entries in
strictly increasing order of the names. Names are ordered code point by code point, which is
also the order of their UTF-8 bytes.

The order is part of the type, so two maps with the same look-ups are the same map, and a map
has one written form. The main statements are `get?_insert_self` and `get?_insert_of_ne`,
`get?_erase_self` and `get?_erase_of_ne`: an insertion or a removal is seen at its own name and
nowhere else.
-/

namespace RelationalCatalog

/-- Of two names that are neither in order nor equal, the second comes first. -/
theorem lt_of_not_lt_of_ne {a b : String} (h : ¬ a < b) (hne : a ≠ b) : b < a :=
  Std.lt_of_le_of_ne (String.not_lt.1 h) (Ne.symm hne)

/-- Entries in strictly increasing order of their names. -/
def IsSorted {β : Type} (entries : List (String × β)) : Prop :=
  entries.Pairwise (fun a b => a.1 < b.1)

instance {β : Type} (entries : List (String × β)) : Decidable (IsSorted entries) :=
  inferInstanceAs (Decidable (entries.Pairwise (fun a b => a.1 < b.1)))

/-- The entries with `name` bound to `value`: an entry of that name gives way to the new one. -/
def insertEntry {β : Type} (name : String) (value : β) :
    List (String × β) → List (String × β)
  | [] => [(name, value)]
  | (n, v) :: rest =>
    if name < n then (name, value) :: (n, v) :: rest
    else if name = n then (name, value) :: rest
    else (n, v) :: insertEntry name value rest

/-- The first value bound to `name`. -/
def lookupEntry {β : Type} (name : String) : List (String × β) → Option β
  | [] => none
  | (n, v) :: rest => if n = name then some v else lookupEntry name rest

/-- The value that gives way when `name` is bound. The search goes as far as an insertion does: it
ends where the entry has its place. -/
def displacedEntry {β : Type} (name : String) : List (String × β) → Option β
  | [] => none
  | (n, v) :: rest =>
    if name < n then none
    else if name = n then some v
    else displacedEntry name rest

/-- An inserted list holds the new entry and old ones only. -/
theorem mem_insertEntry {β : Type} {name : String} {value : β} {e : String × β}
    {entries : List (String × β)} (h : e ∈ insertEntry name value entries) :
    e = (name, value) ∨ e ∈ entries := by
  induction entries with
  | nil => simpa [insertEntry] using h
  | cons head rest ih =>
    obtain ⟨n, v⟩ := head
    rw [insertEntry] at h
    split at h
    · simpa using h
    · split at h
      · rcases List.mem_cons.1 h with h | h
        · exact Or.inl h
        · exact Or.inr (List.mem_cons_of_mem _ h)
      · rcases List.mem_cons.1 h with h | h
        · exact Or.inr (h ▸ List.mem_cons_self)
        · exact (ih h).imp id (List.mem_cons_of_mem _)

/-- Insertion keeps entries in order. -/
theorem IsSorted.insertEntry {β : Type} (name : String) (value : β)
    {entries : List (String × β)} (h : IsSorted entries) :
    IsSorted (insertEntry name value entries) := by
  induction entries with
  | nil => simp [RelationalCatalog.insertEntry, IsSorted]
  | cons head rest ih =>
    obtain ⟨n, v⟩ := head
    have hhead : ∀ e ∈ rest, n < e.1 := fun e he => List.rel_of_pairwise_cons h he
    have htail : IsSorted rest := h.of_cons
    rw [RelationalCatalog.insertEntry]
    split
    · rename_i hlt
      refine List.Pairwise.cons (fun e he => ?_) h
      rcases List.mem_cons.1 he with he | he
      · exact he ▸ hlt
      · exact String.lt_trans hlt (hhead e he)
    · rename_i hnlt
      split
      · rename_i heq
        exact List.Pairwise.cons (fun e he => heq ▸ hhead e he) htail
      · rename_i hne
        refine List.Pairwise.cons (fun e he => ?_) (ih htail)
        rcases mem_insertEntry he with he | he
        · exact he ▸ lt_of_not_lt_of_ne hnlt hne
        · exact hhead e he

/-- A name behind all others is inserted behind them. -/
theorem insertEntry_of_forall_lt {β : Type} {name : String} (value : β)
    {entries : List (String × β)} (h : ∀ e ∈ entries, e.1 < name) :
    insertEntry name value entries = entries ++ [(name, value)] := by
  induction entries with
  | nil => rfl
  | cons head rest ih =>
    obtain ⟨n, v⟩ := head
    have hlt : n < name := h (n, v) List.mem_cons_self
    have hne : name ≠ n := fun heq => String.lt_irrefl _ (heq ▸ hlt)
    have hnlt : ¬ name < n := fun hgt => String.lt_irrefl _ (String.lt_trans hlt hgt)
    rw [insertEntry, if_neg hnlt, if_neg hne, ih fun e he => h e (List.mem_cons_of_mem _ he),
      List.cons_append]

/-- The entries without those of `name`. -/
def eraseEntry {β : Type} (name : String) (entries : List (String × β)) : List (String × β) :=
  entries.filter (fun e => !(e.1 == name))

/-- Removing entries keeps the others in order. -/
theorem IsSorted.eraseEntry {β : Type} (name : String) {entries : List (String × β)}
    (h : IsSorted entries) : IsSorted (eraseEntry name entries) :=
  List.Pairwise.sublist List.filter_sublist h

/-- A finite map from names to values, in strictly increasing order of the names. -/
structure SortedMap (β : Type) where
  /-- The entries, in order. -/
  entries : List (String × β)
  /-- The order of the entries. -/
  sorted : IsSorted entries
deriving DecidableEq

namespace SortedMap

variable {β : Type}

/-- The map without entries. -/
def empty : SortedMap β := ⟨[], List.Pairwise.nil⟩

instance : Inhabited (SortedMap β) := ⟨empty⟩

/-- The map with `name` bound to `value`, whatever was bound to it before. -/
def insert (m : SortedMap β) (name : String) (value : β) : SortedMap β :=
  ⟨insertEntry name value m.entries, m.sorted.insertEntry name value⟩

/-- The map with `name` bound to `value`, and the value that gives way to it. -/
def exchange (m : SortedMap β) (name : String) (value : β) : Option β × SortedMap β :=
  (displacedEntry name m.entries, m.insert name value)

/-- The map without a binding of `name`. -/
def erase (m : SortedMap β) (name : String) : SortedMap β :=
  ⟨eraseEntry name m.entries, m.sorted.eraseEntry name⟩

/-- The value bound to `name`. -/
def get? (m : SortedMap β) (name : String) : Option β := lookupEntry name m.entries

/-- The bound names, in order. -/
def names (m : SortedMap β) : List String := m.entries.map (·.1)

/-- The bound values, in the order of their names. -/
def values (m : SortedMap β) : List β := m.entries.map (·.2)

/-- The number of entries. -/
def size (m : SortedMap β) : Nat := m.entries.length

/-- Whether nothing is bound. -/
def isEmpty (m : SortedMap β) : Bool := m.entries.isEmpty

/-- The map made by binding the pairs one after the other, so the last of a name counts. -/
def ofList (pairs : List (String × β)) : SortedMap β :=
  pairs.foldl (fun m e => m.insert e.1 e.2) empty

end SortedMap

theorem lookupEntry_insertEntry_self {β : Type} (name : String) (value : β)
    (entries : List (String × β)) :
    lookupEntry name (insertEntry name value entries) = some value := by
  induction entries with
  | nil => simp [insertEntry, lookupEntry]
  | cons head rest ih =>
    obtain ⟨n, v⟩ := head
    rw [insertEntry]
    split
    · simp [lookupEntry]
    · split
      · simp [lookupEntry]
      · rename_i hne
        simp [lookupEntry, Ne.symm hne, ih]

theorem lookupEntry_insertEntry_of_ne {β : Type} {name other : String} (h : other ≠ name)
    (value : β) (entries : List (String × β)) :
    lookupEntry other (insertEntry name value entries) = lookupEntry other entries := by
  induction entries with
  | nil => simp [insertEntry, lookupEntry, Ne.symm h]
  | cons head rest ih =>
    obtain ⟨n, v⟩ := head
    rw [insertEntry]
    split
    · simp [lookupEntry, Ne.symm h]
    · split
      · rename_i heq
        subst heq
        simp [lookupEntry, Ne.symm h]
      · simp [lookupEntry, ih]

theorem lookupEntry_eraseEntry_self {β : Type} (name : String) (entries : List (String × β)) :
    lookupEntry name (eraseEntry name entries) = none := by
  induction entries with
  | nil => rfl
  | cons head rest ih =>
    obtain ⟨n, v⟩ := head
    by_cases h : n = name
    · simpa [eraseEntry, h] using ih
    · have hstep : eraseEntry name ((n, v) :: rest) = (n, v) :: eraseEntry name rest := by
        simp [eraseEntry, h]
      rw [hstep, lookupEntry, if_neg h, ih]

theorem lookupEntry_eraseEntry_of_ne {β : Type} {name other : String} (h : other ≠ name)
    (entries : List (String × β)) :
    lookupEntry other (eraseEntry name entries) = lookupEntry other entries := by
  induction entries with
  | nil => rfl
  | cons head rest ih =>
    obtain ⟨n, v⟩ := head
    by_cases hn : n = name
    · have hstep : eraseEntry name ((n, v) :: rest) = eraseEntry name rest := by
        simp [eraseEntry, hn]
      rw [hstep, ih, lookupEntry, if_neg (fun e => h (e.symm.trans hn))]
    · have hstep : eraseEntry name ((n, v) :: rest) = (n, v) :: eraseEntry name rest := by
        simp [eraseEntry, hn]
      rw [hstep, lookupEntry, lookupEntry, ih]

theorem mem_of_lookupEntry {β : Type} {name : String} {value : β}
    {entries : List (String × β)} (h : lookupEntry name entries = some value) :
    (name, value) ∈ entries := by
  induction entries with
  | nil => cases h
  | cons head rest ih =>
    obtain ⟨n, v⟩ := head
    rw [lookupEntry] at h
    split at h
    · rename_i heq
      obtain rfl := Option.some.inj h
      exact heq ▸ List.mem_cons_self
    · exact List.mem_cons_of_mem _ (ih h)

/-- In a sorted list, an entry is the one that is found under its name. -/
theorem IsSorted.lookupEntry_of_mem {β : Type} {entries : List (String × β)}
    (h : IsSorted entries) {e : String × β} (he : e ∈ entries) :
    lookupEntry e.1 entries = some e.2 := by
  induction entries with
  | nil => cases he
  | cons head rest ih =>
    obtain ⟨n, v⟩ := head
    rcases List.mem_cons.1 he with rfl | hrest
    · exact if_pos rfl
    · have hlt : n < e.1 := List.rel_of_pairwise_cons h hrest
      have hne : n ≠ e.1 := fun heq => String.lt_irrefl _ (heq ▸ hlt)
      rw [lookupEntry, if_neg hne]
      exact ih h.of_cons hrest

/-- In a sorted list, the value that gives way is the one that is found under the name. -/
theorem IsSorted.displacedEntry_eq {β : Type} {entries : List (String × β)}
    (h : IsSorted entries) (name : String) :
    displacedEntry name entries = lookupEntry name entries := by
  induction entries with
  | nil => rfl
  | cons head rest ih =>
    obtain ⟨n, v⟩ := head
    rw [displacedEntry, lookupEntry]
    split
    · rename_i hlt
      -- All names from here on are greater.
      have hne : n ≠ name := fun heq => String.lt_irrefl _ (heq ▸ hlt)
      rw [if_neg hne]
      cases hfound : lookupEntry name rest with
      | none => rfl
      | some value =>
        have hlt' : n < name := List.rel_of_pairwise_cons h (mem_of_lookupEntry hfound)
        exact absurd (String.lt_trans hlt hlt') (String.lt_irrefl _)
    · split
      · rename_i heq
        rw [if_pos heq.symm]
      · rename_i hne
        rw [if_neg (Ne.symm hne), ih h.of_cons]

namespace SortedMap

variable {β : Type}

@[simp] theorem get?_empty (name : String) : (empty : SortedMap β).get? name = none := rfl

@[simp] theorem get?_insert_self (m : SortedMap β) (name : String) (value : β) :
    (m.insert name value).get? name = some value :=
  lookupEntry_insertEntry_self name value m.entries

theorem get?_insert_of_ne (m : SortedMap β) {name other : String} (h : other ≠ name)
    (value : β) : (m.insert name value).get? other = m.get? other :=
  lookupEntry_insertEntry_of_ne h value m.entries

/-- What gives way to a binding is what was bound. -/
theorem exchange_eq (m : SortedMap β) (name : String) (value : β) :
    m.exchange name value = (m.get? name, m.insert name value) := by
  rw [exchange, m.sorted.displacedEntry_eq, get?]

@[simp] theorem get?_erase_self (m : SortedMap β) (name : String) :
    (m.erase name).get? name = none :=
  lookupEntry_eraseEntry_self name m.entries

theorem get?_erase_of_ne (m : SortedMap β) {name other : String} (h : other ≠ name) :
    (m.erase name).get? other = m.get? other :=
  lookupEntry_eraseEntry_of_ne h m.entries

theorem get?_eq_some_iff {m : SortedMap β} {name : String} {value : β} :
    m.get? name = some value ↔ (name, value) ∈ m.entries :=
  ⟨mem_of_lookupEntry, fun h => m.sorted.lookupEntry_of_mem h⟩

/-- Binding entries that come after all others adds them in their order. -/
theorem entries_foldl_insert {m : SortedMap β} {rest : List (String × β)}
    (h : IsSorted (m.entries ++ rest)) :
    (rest.foldl (fun m e => m.insert e.1 e.2) m).entries = m.entries ++ rest := by
  induction rest generalizing m with
  | nil => rw [List.foldl_nil, List.append_nil]
  | cons e rest ih =>
    have hlast : ∀ x ∈ m.entries, x.1 < e.1 := fun x hx =>
      (List.pairwise_append.1 h).2.2 x hx e List.mem_cons_self
    have hinsert : (m.insert e.1 e.2).entries = m.entries ++ [e] :=
      insertEntry_of_forall_lt e.2 hlast
    rw [List.append_cons, ← hinsert] at h ⊢
    exact ih h

/-- Maps with the same entries are the same. -/
theorem ext_entries : ∀ {m m' : SortedMap β}, m.entries = m'.entries → m = m'
  | ⟨_, _⟩, ⟨_, _⟩, rfl => rfl

/-- Maps in which the same is found are the same. -/
theorem ext_get? {m m' : SortedMap β} (h : ∀ name, m.get? name = m'.get? name) : m = m' := by
  have hnodup (m : SortedMap β) : m.entries.Nodup := by
    refine List.Pairwise.imp ?_ m.sorted
    rintro a b hlt rfl
    exact String.lt_irrefl _ hlt
  have hperm : m.entries.Perm m'.entries := by
    refine (List.perm_ext_iff_of_nodup (hnodup m) (hnodup m')).2 fun e => ?_
    rw [← get?_eq_some_iff (m := m), ← get?_eq_some_iff (m := m'), h]
  exact ext_entries (hperm.eq_of_pairwise
    (fun _ _ _ _ hlt hgt => absurd (String.lt_trans hlt hgt) (String.lt_irrefl _))
    m.sorted m'.sorted)

/-- A map in which nothing is found is empty. -/
theorem eq_empty_of_get? {m : SortedMap β} (h : ∀ name, m.get? name = none) : m = empty :=
  ext_get? h

/-- A map is made of its entries. -/
theorem ofList_entries (m : SortedMap β) : ofList m.entries = m :=
  ext_entries (entries_foldl_insert m.sorted)

theorem mem_names_iff {m : SortedMap β} {name : String} :
    name ∈ m.names ↔ (m.get? name).isSome = true := by
  rw [names, List.mem_map, Option.isSome_iff_exists]
  constructor
  · rintro ⟨e, he, rfl⟩
    exact ⟨e.2, get?_eq_some_iff.2 he⟩
  · rintro ⟨value, hvalue⟩
    exact ⟨_, get?_eq_some_iff.1 hvalue, rfl⟩

end SortedMap

end RelationalCatalog
