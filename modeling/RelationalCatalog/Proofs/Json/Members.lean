import RelationalCatalog.Proofs.Json.Decoding
import Mathlib.Tactic.Choose

/-!
# What is read as a record

A record is read from an object member by member, and on the way much can be refused. But whether
an object is read, and as what, does not depend on the way. Its names must be admitted: no field is
named twice, and where other members are refused, there are none (`Layout.Admits`). Each field then
has the member of its label, decoded, or what its absence stands for (`Layout.exists_read_iff`). So
the order of the members does not matter, nor do those that are no fields
(`Layout.read_bind_congr`).

In an array a field has the item at its place. There may be fewer items than fields, if the fields
that are left need not be given (`Layout.exists_read_arr_iff`).
-/

namespace RelationalCatalog

namespace Json

variable {name : String} {members : List (String × Json)}

theorem member?_cons_self (name : String) (value : Json) (members : List (String × Json)) :
    (obj ((name, value) :: members)).member? name = some value := by
  simp [member?]

theorem member?_cons_of_ne {other : String} (h : other ≠ name) (value : Json)
    (members : List (String × Json)) :
    (obj ((other, value) :: members)).member? name = (obj members).member? name := by
  simp [member?, h]

theorem member?_eq_none_iff : (obj members).member? name = none ↔ name ∉ members.map (·.1) := by
  simp only [member?, Option.map_eq_none_iff, List.find?_eq_none, List.mem_map, beq_iff_eq,
    not_exists, not_and]

/-- There is just one member of a name if the name is not repeated and the member is found. -/
theorem filter_eq_singleton_iff {value : Json} :
    members.filter (fun m => m.1 == name) = [(name, value)] ↔
      (members.map (·.1)).count name ≤ 1 ∧ (obj members).member? name = some value := by
  have hcount : (members.map (·.1)).count name = (members.filter fun m => m.1 == name).length := by
    rw [List.count, List.countP_map, List.countP_eq_length_filter]
    rfl
  have hmember : (obj members).member? name =
      (members.filter fun m => m.1 == name).head?.map (·.2) := by
    rw [member?, List.head?_filter]
  rw [hcount, hmember]
  constructor
  · intro h
    rw [h]
    exact ⟨Nat.le_refl 1, rfl⟩
  · rintro ⟨hlength, hhead⟩
    obtain ⟨m, hm, rfl⟩ := Option.map_eq_some_iff.mp hhead
    obtain ⟨rest, hrest⟩ := List.head?_eq_some_iff.mp hm
    rw [hrest, List.length_cons] at hlength
    obtain rfl := List.length_eq_zero_iff.mp (Nat.le_zero.mp (Nat.le_of_succ_le_succ hlength))
    have hmem : m ∈ members.filter fun m => m.1 == name := hrest ▸ List.mem_cons_self
    rw [hrest, ← eq_of_beq (List.mem_filter.mp hmem).2]

/-- Members that are left out by their names are those that are not found any more. -/
theorem member?_filter {p : String → Bool} (h : p name = true) (members : List (String × Json)) :
    (obj (members.filter fun m => p m.1)).member? name = (obj members).member? name := by
  simp only [member?, List.find?_filter]
  congr 2
  funext m
  by_cases hm : m.1 = name
  · simp [hm, h]
  · simp [hm]

mutual

/-- Nothing in the draft of a value is run into when it is skipped. -/
theorem skipFault?_toDraft {e : Ending} (he : e.readFault? = none) (v : Json) :
    (v.toDraft e).skipFault? = none := by
  have hend : e.skipFault? = none := by
    cases e with
    | broken => cases he
    | _ => rfl
  cases v with
  | arr items => rw [toDraft, Draft.skipFault?, itemsSkipFault?_toDraftItems he items, hend]; rfl
  | obj members =>
    rw [toDraft, Draft.skipFault?, membersSkipFault?_toDraftMembers he members, hend]
    rfl
  | _ => rfl

theorem itemsSkipFault?_toDraftItems {e : Ending} (he : e.readFault? = none) (items : List Json) :
    Draft.itemsSkipFault? (toDraftItems e items) = none := by
  cases items with
  | nil => rfl
  | cons v rest =>
    rw [toDraftItems, Draft.itemsSkipFault?, skipFault?_toDraft he v,
      itemsSkipFault?_toDraftItems he rest]
    rfl

theorem membersSkipFault?_toDraftMembers {e : Ending} (he : e.readFault? = none)
    (members : List (String × Json)) :
    Draft.membersSkipFault? (toDraftMembers e members) = none := by
  cases members with
  | nil => rfl
  | cons m rest =>
    obtain ⟨n, v⟩ := m
    rw [toDraftMembers, Draft.membersSkipFault?, skipFault?_toDraft he v,
      membersSkipFault?_toDraftMembers he rest]
    rfl

end

end Json

namespace Layout

variable {l : Layout} {e : Ending} {members : List (String × Json)}

/-- What the member of a field's label is decoded to, if there is one. -/
def given? (l : Layout) (e : Ending) (v : Json) (f : l.Field) : Option (Decoded (l.Value f)) :=
  (v.member? (l.label f)).map fun value => l.decode f (value.toDraft e)

/-- The members that are kept apart from the fields. -/
def kept (l : Layout) (members : List (String × Json)) : List (String × Json) :=
  if l.unlisted = .kept then members.filter fun m => (l.field? m.1).isNone else []

theorem label_of_field? {n : String} {f : l.Field} (hf : l.field? n = some f) : l.label f = n := by
  rw [field?] at hf
  have hlabel := List.find?_some hf
  exact eq_of_beq hlabel

theorem Lawful.label_inj (hl : l.Lawful) {f g : l.Field} (h : l.label f = l.label g) : f = g := by
  have hf := hl.field?_label f
  rw [h, hl.field?_label] at hf
  exact (Option.some.inj hf).symm

theorem kept_cons (n : String) (v : Json) (members : List (String × Json)) :
    l.kept ((n, v) :: members) = l.kept [(n, v)] ++ l.kept members := by
  rw [kept, kept, kept]
  split
  · rw [← List.filter_append, List.singleton_append]
  · rfl

theorem kept_cons_of_field {f : l.Field} {n : String} (hf : l.field? n = some f) (v : Json)
    (members : List (String × Json)) : l.kept ((n, v) :: members) = l.kept members := by
  simp [kept, hf]

/-! ## Names -/

/-- The names of an object's members as a layout admits them. -/
structure Admits (l : Layout) (names : List String) : Prop where
  /-- where other members are refused, there are only fields -/
  listed : l.unlisted = .refused → ∀ n ∈ names, l.field? n ≠ none
  /-- no field is named twice -/
  once : ∀ f, names.count (l.label f) ≤ 1

theorem admits_nil : l.Admits [] := ⟨fun _ => nofun, fun _ => Nat.zero_le 1⟩

/-- Different names are admitted where other members are not refused. -/
theorem admits_of_nodup (hlisted : l.unlisted ≠ .refused) {names : List String}
    (h : names.Nodup) : l.Admits names :=
  ⟨fun hrefused => absurd hrefused hlisted, fun _ => List.nodup_iff_count.mp h _⟩

/-- Where other members are refused, different names of fields are admitted. -/
theorem admits_iff_of_refused (hl : l.Lawful) (hrefused : l.unlisted = .refused)
    {names : List String} :
    l.Admits names ↔ names.Nodup ∧ ∀ n ∈ names, n ∈ l.fields.map l.label := by
  constructor
  · intro h
    have hlabel : ∀ n ∈ names, ∃ f, l.label f = n := fun n hn => by
      obtain ⟨f, hf⟩ := Option.ne_none_iff_exists'.mp (h.listed hrefused n hn)
      exact ⟨f, label_of_field? hf⟩
    refine ⟨List.nodup_iff_count.mpr fun n => ?_, fun n hn => ?_⟩
    · by_cases hn : n ∈ names
      · obtain ⟨f, rfl⟩ := hlabel n hn
        exact h.once f
      · rw [List.count_eq_zero_of_not_mem hn]
        exact Nat.zero_le 1
    · obtain ⟨f, rfl⟩ := hlabel n hn
      exact List.mem_map_of_mem (hl.mem_fields f)
  · rintro ⟨hnodup, hlisted⟩
    refine ⟨fun _ n hn => ?_, fun f => List.nodup_iff_count.mp hnodup _⟩
    obtain ⟨f, -, rfl⟩ := List.mem_map.mp (hlisted n hn)
    rw [hl.field?_label]
    exact Option.some_ne_none f

theorem Lawful.ne_label (hl : l.Lawful) {n : String} (hn : l.field? n = none) (f : l.Field) :
    n ≠ l.label f := by
  rintro rfl
  rw [hl.field?_label] at hn
  cases hn

/-- A name that is no field is admitted unless it is refused. -/
theorem admits_cons_of_unlisted (hl : l.Lawful) {n : String} (hn : l.field? n = none)
    {names : List String} :
    l.Admits (n :: names) ↔ l.unlisted ≠ .refused ∧ l.Admits names := by
  have hcount (f : l.Field) : (n :: names).count (l.label f) = names.count (l.label f) :=
    List.count_cons_of_ne (hl.ne_label hn f)
  constructor
  · intro h
    refine ⟨fun hrefused => h.listed hrefused n List.mem_cons_self hn,
      fun hrefused m hm => h.listed hrefused m (List.mem_cons_of_mem _ hm), fun f => ?_⟩
    exact hcount f ▸ h.once f
  · rintro ⟨hlisted, h⟩
    exact ⟨fun hrefused => absurd hrefused hlisted, fun f => hcount f ▸ h.once f⟩

/-- The name of a field is admitted in front of names among which it is not. -/
theorem admits_cons_of_field (hl : l.Lawful) (f : l.Field) {names : List String} :
    l.Admits (l.label f :: names) ↔ l.label f ∉ names ∧ l.Admits names := by
  constructor
  · intro h
    refine ⟨fun hmem => ?_, fun hrefused m hm => h.listed hrefused m (List.mem_cons_of_mem _ hm),
      fun g => Nat.le_trans List.count_le_count_cons (h.once g)⟩
    have htwice := h.once f
    rw [List.count_cons_self] at htwice
    have hpos := List.count_pos_iff.mpr hmem
    omega
  · rintro ⟨hnot, h⟩
    refine ⟨fun hrefused m hm => ?_, fun g => ?_⟩
    · rcases List.mem_cons.mp hm with rfl | hm
      · rw [hl.field?_label]
        exact Option.some_ne_none f
      · exact h.listed hrefused m hm
    · by_cases hg : l.label f = l.label g
      · rw [← hg, List.count_cons_self, List.count_eq_zero_of_not_mem hnot]
      · rw [List.count_cons_of_ne hg]
        exact h.once g

/-- A member that is no field leaves the slots as they are. -/
theorem readMembers_unlisted (hlisted : l.unlisted ≠ .refused) (he : e.readFault? = none)
    {n : String} (hn : l.field? n = none) (v : Json) (r : l.Reading) :
    l.readMembers (Json.toDraftMembers e ((n, v) :: members)) e r =
      l.readMembers (Json.toDraftMembers e members) e
        { r with others := r.others ++ l.kept [(n, v)] } := by
  rw [Json.toDraftMembers, readMembers, hn]
  cases hunlisted : l.unlisted with
  | refused => exact absurd hunlisted hlisted
  | skipped =>
    have hnothing : l.kept [(n, v)] = [] := by simp [kept, hunlisted]
    simp only [Json.skipFault?_toDraft he v, hnothing, List.append_nil]
  | kept =>
    have hkept : l.kept [(n, v)] = [(n, v)] := by simp [kept, hunlisted, hn]
    simp only [Decode.anything_toDraft he, hkept, bind, Except.bind]

section Given

variable {n : String} {v : Json}

theorem given?_cons_of_unlisted (hl : l.Lawful) (hn : l.field? n = none) (f : l.Field) :
    l.given? e (.obj ((n, v) :: members)) f = l.given? e (.obj members) f := by
  have hne : n ≠ l.label f := by
    rintro rfl
    rw [hl.field?_label] at hn
    cases hn
  rw [given?, given?, Json.member?_cons_of_ne hne]

theorem given?_cons_self (f : l.Field) :
    l.given? e (.obj ((l.label f, v) :: members)) f = some (l.decode f (v.toDraft e)) := by
  rw [given?, Json.member?_cons_self]
  rfl

theorem given?_cons_of_ne (hl : l.Lawful) {f g : l.Field} (h : f ≠ g) :
    l.given? e (.obj ((l.label f, v) :: members)) g = l.given? e (.obj members) g := by
  have hne : l.label f ≠ l.label g := fun heq => h (hl.label_inj heq)
  rw [given?, given?, Json.member?_cons_of_ne hne]

theorem given?_eq_none {f : l.Field} (h : l.label f ∉ members.map (·.1)) :
    l.given? e (.obj members) f = none := by
  rw [given?, Json.member?_eq_none_iff.mpr h]
  rfl

end Given

/-! ## Members -/

/-- Filling a field leaves the fields of names free just if the field is not among them and they
were free before. -/
theorem Lawful.free_set_iff (hl : l.Lawful) {slots : l.Slots} {f : l.Field} (hslot : slots f = none)
    (value : l.Value f) {names : List String} :
    (∀ g, l.label g ∈ names → slots.set f value g = none) ↔
      l.label f ∉ names ∧ ∀ g, l.label g ∈ l.label f :: names → slots g = none := by
  constructor
  · intro hfree
    have hnot : l.label f ∉ names := by
      intro hmem
      have hset := hfree f hmem
      rw [Slots.set_self] at hset
      cases hset
    refine ⟨hnot, fun g hg => ?_⟩
    rcases List.mem_cons.mp hg with hg | hg
    · rw [hl.label_inj hg, hslot]
    · have hne : f ≠ g := by
        rintro rfl
        exact hnot hg
      exact (Slots.set_of_ne _ hne value).symm.trans (hfree g hg)
  · rintro ⟨hnot, hfree⟩ g hg
    have hne : f ≠ g := by
      rintro rfl
      exact hnot hg
    exact (Slots.set_of_ne _ hne value).trans (hfree g (List.mem_cons_of_mem _ hg))

/-- The first member of a field, if there is no second, fills the slot that the object has for
it. -/
theorem Lawful.given?_or_set (hl : l.Lawful) (slots : l.Slots) {f : l.Field} {v : Json}
    {value : l.Value f} (hd : l.decode f (v.toDraft e) = .ok value)
    (hnot : l.label f ∉ members.map (·.1)) (g : l.Field) :
    (l.given? e (.obj members) g).or ((slots.set f value g).map Except.ok) =
      (l.given? e (.obj ((l.label f, v) :: members)) g).or ((slots g).map Except.ok) := by
  by_cases hg : f = g
  · subst hg
    rw [given?_eq_none hnot, given?_cons_self, hd, Option.none_or, Option.some_or, Slots.set_self]
    rfl
  · rw [given?_cons_of_ne hl hg, Slots.set_of_ne _ hg]

/-- Readings are the same just if they have the same slots and others. -/
theorem ok_eq_ok_iff {r r' : l.Reading} :
    (.ok r : Decoded l.Reading) = .ok r' ↔
      (∀ f, (r'.slots f).map (Except.ok (ε := DecodeError)) = (r.slots f).map Except.ok) ∧
        r'.others = r.others := by
  obtain ⟨slots, others⟩ := r
  obtain ⟨slots', others'⟩ := r'
  constructor
  · intro h
    cases h
    exact ⟨fun _ => rfl, rfl⟩
  · rintro ⟨hslots, rfl⟩
    have hsame : slots = slots' := by
      funext f
      exact (Option.map_injective (fun _ _ => Except.ok.inj) (hslots f)).symm
    rw [hsame]

/-- What is read of members behind a reading: their names are admitted, those of fields name none
that is filled, and these are decoded, each into the slot of its field. -/
def Reads (l : Layout) (e : Ending) (members : List (String × Json)) (r r' : l.Reading) : Prop :=
  (l.Admits (members.map (·.1)) ∧ ∀ f, l.label f ∈ members.map (·.1) → r.slots f = none) ∧
    (∀ f, (r'.slots f).map Except.ok =
      (l.given? e (.obj members) f).or ((r.slots f).map Except.ok)) ∧
    r'.others = r.others ++ l.kept members

section Reads

variable {r r' : l.Reading} {n : String} {v : Json} {f : l.Field}

theorem reads_nil_iff : l.Reads e [] r r' ↔ (.ok r : Decoded l.Reading) = .ok r' := by
  have hkept : l.kept [] = [] := by rw [kept]; split <;> rfl
  have hnone (f : l.Field) (hf : l.label f ∈ ([] : List (String × Json)).map (·.1)) :
      r.slots f = none := absurd hf List.not_mem_nil
  rw [Reads, hkept, List.append_nil]
  exact (ok_eq_ok_iff.trans (and_iff_right ⟨admits_nil, hnone⟩).symm).symm

/-- A member that is no field is kept or left aside, unless it is refused. -/
theorem reads_cons_of_unlisted (hl : l.Lawful) (hn : l.field? n = none) :
    l.Reads e ((n, v) :: members) r r' ↔
      l.unlisted ≠ .refused ∧
        l.Reads e members { r with others := r.others ++ l.kept [(n, v)] } r' := by
  have hkept : r.others ++ l.kept ((n, v) :: members) =
      r.others ++ l.kept [(n, v)] ++ l.kept members := by
    rw [kept_cons n v members, List.append_assoc]
  have hmem (f : l.Field) : l.label f ∈ n :: members.map (·.1) ↔ l.label f ∈ members.map (·.1) := by
    rw [List.mem_cons, or_iff_right (hl.ne_label hn f).symm]
  rw [Reads, List.map_cons, admits_cons_of_unlisted hl hn, hkept]
  simp only [given?_cons_of_unlisted hl hn, hmem, Reads, and_assoc]

/-- The slot of a field is filled once. -/
theorem not_reads_of_filled (h : r.slots f ≠ none) :
    ¬ l.Reads e ((l.label f, v) :: members) r r' :=
  fun hreads => h (hreads.1.2 f List.mem_cons_self)

theorem not_reads_of_undecoded {error : DecodeError}
    (hd : l.decode f (v.toDraft e) = .error error) : ¬ l.Reads e ((l.label f, v) :: members) r r' := by
  rintro ⟨-, hslots, -⟩
  have hgiven := hslots f
  rw [given?_cons_self, hd, Option.some_or] at hgiven
  obtain ⟨value, -, hvalue⟩ := Option.map_eq_some_iff.mp hgiven
  cases hvalue

/-- A member of a field fills its slot. -/
theorem reads_cons_of_field (hl : l.Lawful) (hslot : r.slots f = none) {value : l.Value f}
    (hd : l.decode f (v.toDraft e) = .ok value) :
    l.Reads e ((l.label f, v) :: members) r r' ↔
      l.Reads e members { r with slots := r.slots.set f value } r' := by
  have hnames : (l.Admits (members.map (·.1)) ∧
        ∀ g, l.label g ∈ members.map (·.1) → r.slots.set f value g = none) ↔
      (l.label f ∉ members.map (·.1) ∧ l.Admits (members.map (·.1))) ∧
        ∀ g, l.label g ∈ l.label f :: members.map (·.1) → r.slots g = none := by
    rw [hl.free_set_iff hslot value, and_left_comm, ← and_assoc]
  rw [Reads, List.map_cons, admits_cons_of_field hl f, kept_cons_of_field (hl.field?_label f),
    Reads, hnames]
  refine and_congr_right fun hnames => and_congr_left' (forall_congr' fun g => ?_)
  rw [hl.given?_or_set r.slots hd hnames.1.1]

/-- Each member is read as it comes. -/
theorem readMembers_eq_ok_iff (hl : l.Lawful) (he : e.readFault? = none) :
    l.readMembers (Json.toDraftMembers e members) e r = .ok r' ↔ l.Reads e members r r' := by
  -- What was read before is in the reading `r`, so the induction is on the members for every `r`.
  induction members generalizing r with
  | nil =>
    rw [Json.toDraftMembers, readMembers, he]
    exact reads_nil_iff.symm
  | cons m members ih =>
    obtain ⟨n, v⟩ := m
    cases hf : l.field? n with
    | none =>
      rw [reads_cons_of_unlisted hl hf]
      by_cases hlisted : l.unlisted = .refused
      · rw [Json.toDraftMembers, readMembers, hf]
        simp [hlisted]
      · rw [readMembers_unlisted hlisted he hf, ih, and_iff_right hlisted]
    | some f =>
      obtain rfl := label_of_field? hf
      cases hslot : r.slots f with
      | some old =>
        refine iff_of_false (fun h => ?_) (not_reads_of_filled (by simp [hslot]))
        rw [Json.toDraftMembers, readMembers, hf] at h
        simp [hslot] at h
      | none =>
        rw [Json.toDraftMembers, readMembers_field hf hslot]
        cases hd : l.decode f (v.toDraft e) with
        | error error => exact iff_of_false (fun h => (by cases h)) (not_reads_of_undecoded hd)
        | ok value => exact ih.trans (reads_cons_of_field hl hslot hd).symm

end Reads

/-- **An object is read just if its names are admitted and the members of fields are decoded.**
Their values fill the slots, and other members are kept or left aside. -/
theorem read_eq_ok_iff (hl : l.Lawful) (he : e.readFault? = none) {r : l.Reading} :
    l.read ((Json.obj members).toDraft e) = .ok r ↔
      l.Admits (members.map (·.1)) ∧
      (∀ f, (r.slots f).map Except.ok = l.given? e (.obj members) f) ∧
      r.others = l.kept members := by
  have hfree : ∀ f, l.label f ∈ members.map (·.1) → l.noSlots f = none := fun _ _ => rfl
  rw [Json.toDraft, read, readMembers_eq_ok_iff hl he, Reads, and_iff_left hfree]
  simp only [noSlots, Option.map_none, Option.or_none, List.nil_append]

/-- What the absence of a field stands for. -/
def absent (l : Layout) (f : l.Field) : Decoded (l.Value f) :=
  match l.absence f with
  | .refused => .error (.mismatch (.missingField (l.label f)))
  | .fromObject value => .ok value
  | .anywhere value => .ok value

/-- What an object has for a field: its member of the field's label, decoded, or else what the
field's absence stands for. -/
def found (l : Layout) (e : Ending) (v : Json) (f : l.Field) : Decoded (l.Value f) :=
  (l.given? e v f).getD (l.absent f)

/-- A field that must be given is found just if it is given and decoded. -/
theorem found_eq_ok_iff_of_refused {v : Json} {f : l.Field} {a : l.Value f}
    (h : l.absence f = .refused) :
    l.found e v f = .ok a ↔
      ∃ value, v.member? (l.label f) = some value ∧ l.decode f (value.toDraft e) = .ok a := by
  rw [found, given?, absent, h]
  cases v.member? (l.label f) <;> simp

/-- A field that may be left out is what it is given as, or else its default. -/
theorem found_eq_ok_iff_of_anywhere {v : Json} {f : l.Field} {default a : l.Value f}
    (h : l.absence f = .anywhere default) :
    l.found e v f = .ok a ↔
      (v.member? (l.label f)).elim (a = default) fun value =>
        l.decode f (value.toDraft e) = .ok a := by
  rw [found, given?, absent, h]
  cases v.member? (l.label f) <;> simp [eq_comm]

theorem take_eq_getD {f : l.Field} {r : l.Reading} {given : Option (Decoded (l.Value f))}
    (h : (r.slots f).map Except.ok = given) : r.take f = given.getD (l.absent f) := by
  rw [Reading.take, ← h]
  cases r.slots f <;> rfl

/-- What is given for a field fills its slot, if there is a value for the field at all. -/
theorem exists_slot {f : l.Field} {given : Option (Decoded (l.Value f))} {a : l.Value f}
    (h : given.getD (l.absent f) = .ok a) :
    ∃ slot : Option (l.Value f), slot.map Except.ok = given := by
  cases given with
  | none => exact ⟨none, rfl⟩
  | some value => exact ⟨some a, congrArg some h.symm⟩

/-- **An object gives a record just if its names are admitted and there is a value for every
field**, each found by its name. -/
theorem exists_read_iff (hl : l.Lawful) (he : e.readFault? = none) (members : List (String × Json))
    (values : (f : l.Field) → l.Value f) (others : List (String × Json) → Prop) :
    (∃ r, l.read ((Json.obj members).toDraft e) = .ok r ∧
        (∀ f, r.take f = .ok (values f)) ∧ others r.others) ↔
      l.Admits (members.map (·.1)) ∧
        (∀ f, l.found e (.obj members) f = .ok (values f)) ∧ others (l.kept members) := by
  constructor
  · rintro ⟨r, hread, htake, hr⟩
    obtain ⟨hadmits, hslots, hothers⟩ := (read_eq_ok_iff hl he).mp hread
    exact ⟨hadmits, fun f => (take_eq_getD (hslots f)).symm.trans (htake f), hothers ▸ hr⟩
  · rintro ⟨hadmits, hfound, hkept⟩
    choose slots hslots using fun f => exists_slot (hfound f)
    refine ⟨⟨slots, l.kept members⟩, (read_eq_ok_iff hl he).mpr ⟨hadmits, hslots, rfl⟩,
      fun f => ?_, hkept⟩
    exact (take_eq_getD (hslots f)).trans (hfound f)

/-- Without a look at the other members. -/
theorem exists_read_obj_iff (hl : l.Lawful) (he : e.readFault? = none)
    (members : List (String × Json)) (values : (f : l.Field) → l.Value f) :
    (∃ r, l.read ((Json.obj members).toDraft e) = .ok r ∧ ∀ f, r.take f = .ok (values f)) ↔
      l.Admits (members.map (·.1)) ∧ ∀ f, l.found e (.obj members) f = .ok (values f) := by
  simpa only [and_true] using exists_read_iff hl he members values fun _ => True

/-- Where other members are skipped, whatever is made of a record depends only on the members of
its fields, and not on their order. -/
theorem read_bind_congr (hl : l.Lawful) (hskipped : l.unlisted = .skipped)
    (he : e.readFault? = none) {members' : List (String × Json)}
    (hdistinct : (members.map (·.1)).Nodup) (hdistinct' : (members'.map (·.1)).Nodup)
    (hsame : ∀ f, (Json.obj members').member? (l.label f) = (Json.obj members).member? (l.label f))
    {α : Type} {build : l.Reading → Decoded α} {a : α} :
    (l.read ((Json.obj members').toDraft e) >>= build) = .ok a ↔
      (l.read ((Json.obj members).toDraft e) >>= build) = .ok a := by
  have hlisted : l.unlisted ≠ .refused := by simp [hskipped]
  have hread (r : l.Reading) : l.read ((Json.obj members').toDraft e) = .ok r ↔
      l.read ((Json.obj members).toDraft e) = .ok r := by
    rw [read_eq_ok_iff hl he, read_eq_ok_iff hl he,
      and_iff_right (admits_of_nodup hlisted hdistinct),
      and_iff_right (admits_of_nodup hlisted hdistinct')]
    simp only [given?, hsame, kept, hskipped, reduceCtorEq, if_false]
  simp only [bind_eq_ok_iff, hread]

/-! ## Arrays -/

/-- What the item at the place of a field is decoded to, if there is one. -/
def placed? (l : Layout) (e : Ending) (fields : List l.Field) (items : List Json) (f : l.Field) :
    Option (Decoded (l.Value f)) :=
  items[fields.idxOf f]?.map fun v => l.decode f (v.toDraft e)

/-- The items of an array suffice for the listed fields, and are not too many. -/
structure Fits (l : Layout) (fields : List l.Field) (items : List Json) : Prop where
  /-- there is no item beyond the fields -/
  length_le : items.length ≤ fields.length
  /-- the fields beyond the items may be left out -/
  optional : ∀ f ∈ fields.drop items.length, ∃ a, l.absence f = .anywhere a

section Placed

variable {fields : List l.Field} {items : List Json} {v : Json} {f g : l.Field}

theorem placed?_nil : l.placed? e fields [] f = none := rfl

theorem placed?_cons_self : l.placed? e (f :: fields) (v :: items) f =
    some (l.decode f (v.toDraft e)) := by
  rw [placed?, List.idxOf_cons_self]
  rfl

theorem placed?_cons_of_ne (h : f ≠ g) : l.placed? e (f :: fields) (v :: items) g =
    l.placed? e fields items g := by
  have hidx : (f :: fields).idxOf g = fields.idxOf g + 1 := by
    rw [List.idxOf_cons, beq_false_of_ne h]
    rfl
  rw [placed?, placed?, hidx, List.getElem?_cons_succ]

theorem fits_cons_iff : l.Fits (f :: fields) (v :: items) ↔ l.Fits fields items :=
  ⟨fun h => ⟨Nat.le_of_succ_le_succ h.length_le, h.optional⟩,
    fun h => ⟨Nat.succ_le_succ h.length_le, h.optional⟩⟩

theorem fits_cons_nil_iff :
    l.Fits (f :: fields) [] ↔ (∃ a, l.absence f = .anywhere a) ∧ l.Fits fields [] := by
  constructor
  · intro h
    exact ⟨h.optional f List.mem_cons_self,
      Nat.zero_le _, fun g hg => h.optional g (List.mem_cons_of_mem _ hg)⟩
  · rintro ⟨hf, h⟩
    refine ⟨Nat.zero_le _, fun g hg => ?_⟩
    rcases List.mem_cons.mp hg with rfl | hg
    · exact hf
    · exact h.optional g hg

/-- There is no item at the place of a field that is not listed. -/
theorem Fits.placed?_eq_none (h : l.Fits fields items) (hf : f ∉ fields) :
    l.placed? e fields items f = none := by
  rw [placed?, List.idxOf_eq_length hf, List.getElem?_eq_none h.length_le]
  rfl

/-- The item at the first place fills the slot that the array has for its field. -/
theorem Fits.placed?_or_set (h : l.Fits fields items) (hf : f ∉ fields) (slots : l.Slots)
    {value : l.Value f} (hd : l.decode f (v.toDraft e) = .ok value) (g : l.Field) :
    (l.placed? e fields items g).or ((slots.set f value g).map Except.ok) =
      (l.placed? e (f :: fields) (v :: items) g).or ((slots g).map Except.ok) := by
  by_cases hg : f = g
  · subst hg
    rw [h.placed?_eq_none hf, placed?_cons_self, hd, Option.none_or, Option.some_or, Slots.set_self]
    rfl
  · rw [placed?_cons_of_ne hg, Slots.set_of_ne _ hg]

end Placed

/-- How an array ends whose items are known to be all. -/
def Ends (e : Ending) : Prop := e = .closed ∨ e = .counted

theorem Ends.readFault?_eq_none (h : Ends e) : e.readFault? = none := by
  rcases h with rfl | rfl <;> rfl

/-- Items are read just if they fit the fields, and each is decoded into the slot of its field. -/
theorem readItems_eq_ok_iff (he : Ends e) {length position : Nat} {fields : List l.Field}
    (hnodup : fields.Nodup) {items : List Json} {r r' : l.Reading} :
    l.readItems length position fields (Json.toDraftItems e items) e r = .ok r' ↔
      l.Fits fields items ∧
      (∀ f, (r'.slots f).map Except.ok =
        (l.placed? e fields items f).or ((r.slots f).map Except.ok)) ∧
      r'.others = r.others := by
  have hend := he.readFault?_eq_none
  induction fields generalizing items r position with
  | nil =>
    cases items with
    | nil =>
      rw [Json.toDraftItems, readItems, hend]
      exact ok_eq_ok_iff.trans (and_iff_right ⟨Nat.le_refl 0, nofun⟩).symm
    | cons v items =>
      refine iff_of_false (fun h => ?_) fun h => absurd h.1.length_le (Nat.not_succ_le_zero _)
      rw [Json.toDraftItems, readItems] at h
      rcases he with rfl | rfl <;> cases h
  | cons f fields ih =>
    obtain ⟨hf, hnodup⟩ := List.nodup_cons.mp hnodup
    cases items with
    | nil =>
      rw [Json.toDraftItems, readItems, hend, fits_cons_nil_iff]
      cases habsence : l.absence f with
      | anywhere a =>
        have hmore := @ih (position + 1) hnodup [] r
        simp only [placed?_nil] at hmore ⊢
        exact hmore.trans (and_congr_left' (and_iff_right ⟨a, rfl⟩).symm)
      | refused | fromObject => simp
    | cons v items =>
      rw [Json.toDraftItems, readItems, fits_cons_iff]
      cases hd : l.decode f (v.toDraft e) with
      | error error =>
        refine iff_of_false (fun h => (by cases h)) ?_
        rintro ⟨-, hslots, -⟩
        have hplaced := hslots f
        rw [placed?_cons_self, hd, Option.some_or] at hplaced
        obtain ⟨value, -, hvalue⟩ := Option.map_eq_some_iff.mp hplaced
        cases hvalue
      | ok value =>
        refine (ih hnodup).trans (and_congr_right fun hfits => ?_)
        refine and_congr_left' (forall_congr' fun g => ?_)
        rw [hfits.placed?_or_set hf r.slots hd]

/-- **An array gives a record just if its items fit the fields and there is a value for every
field**, each found at its place. -/
theorem exists_read_arr_iff (hl : l.Lawful) (hpositional : l.positional = true) (he : Ends e)
    (items : List Json) (values : (f : l.Field) → l.Value f) :
    (∃ r, l.read ((Json.arr items).toDraft e) = .ok r ∧ ∀ f, r.take f = .ok (values f)) ↔
      l.Fits l.fields items ∧
        ∀ f, (l.placed? e l.fields items f).getD (l.absent f) = .ok (values f) := by
  have hread {r : l.Reading} : l.read ((Json.arr items).toDraft e) = .ok r ↔
      l.Fits l.fields items ∧
        (∀ f, (r.slots f).map Except.ok = l.placed? e l.fields items f) ∧ r.others = [] := by
    rw [Json.toDraft, read, if_pos hpositional, readItems_eq_ok_iff he hl.nodup]
    simp only [noSlots, Option.map_none, Option.or_none]
  constructor
  · rintro ⟨r, hr, htake⟩
    obtain ⟨hfits, hslots, -⟩ := hread.mp hr
    exact ⟨hfits, fun f => (take_eq_getD (hslots f)).symm.trans (htake f)⟩
  · rintro ⟨hfits, hvalues⟩
    choose slots hslots using fun f => exists_slot (hvalues f)
    exact ⟨⟨slots, []⟩, hread.mpr ⟨hfits, hslots, rfl⟩,
      fun f => (take_eq_getD (hslots f)).trans (hvalues f)⟩

end Layout

end RelationalCatalog
