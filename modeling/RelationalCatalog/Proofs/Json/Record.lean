import RelationalCatalog.Json.Record
import RelationalCatalog.Json.Text
import RelationalCatalog.Proofs.Json.Reader
import RelationalCatalog.Proofs.Outcome

/-!
# Written records are read back

A decoder is *faithful* to a writer if it takes whatever is written back to what was written, and
all that is written is legible (`Decode.Faithful`); then the text is decoded to what was written
(`Decode.Faithful.decodeText_render`). Faithfulness is put together from the parts:

- `Faithful.list`, `Faithful.map` and `Faithful.optional` — values
- `map_toDraft` — maps, whose members are decoded one by one
- `Layout.faithful` — records, whose members are the fields that are given, each written in its
  own way
- `Layout.read_given_append` — members that are no fields, which a layout can keep

How the items of a draft end does not matter, as long as they do end.
-/

namespace RelationalCatalog

namespace Json

/-! ## Drafts of values -/

theorem toDraftItems_eq_map (e : Ending) (items : List Json) :
    toDraftItems e items = items.map (toDraft e) := by
  induction items with
  | nil => rfl
  | cons v rest ih => rw [toDraftItems, ih, List.map_cons]

theorem toDraftMembers_eq_map (e : Ending) (members : List (String × Json)) :
    toDraftMembers e members = members.map (fun m => (m.1, m.2.toDraft e)) := by
  induction members with
  | nil => rfl
  | cons m rest ih =>
    obtain ⟨n, v⟩ := m
    rw [toDraftMembers, ih, List.map_cons]

mutual

/-- The draft of a value is read from end to end as that value. -/
theorem toJson_toDraft {e : Ending} (he : e.readFault? = none) (v : Json) :
    (v.toDraft e).toJson = .ok v := by
  cases v with
  | null => rfl
  | bool b => rfl
  | int n => rfl
  | float x => rfl
  | str s => rfl
  | arr items =>
    simp only [toDraft, Draft.toJson, toJsonItems_toDraftItems he items, bind, Except.bind, he]
  | obj members =>
    simp only [toDraft, Draft.toJson, toJsonMembers_toDraftMembers he members, bind, Except.bind,
      he]

theorem toJsonItems_toDraftItems {e : Ending} (he : e.readFault? = none) (items : List Json) :
    Draft.toJsonItems (toDraftItems e items) = .ok items := by
  cases items with
  | nil => rfl
  | cons v rest =>
    simp only [toDraftItems, Draft.toJsonItems, toJson_toDraft he v,
      toJsonItems_toDraftItems he rest, bind, Except.bind]

theorem toJsonMembers_toDraftMembers {e : Ending} (he : e.readFault? = none)
    (members : List (String × Json)) :
    Draft.toJsonMembers (toDraftMembers e members) = .ok members := by
  cases members with
  | nil => rfl
  | cons m rest =>
    obtain ⟨n, v⟩ := m
    simp only [toDraftMembers, Draft.toJsonMembers, toJson_toDraft he v,
      toJsonMembers_toDraftMembers he rest, bind, Except.bind]

end

end Json

namespace Decode

variable {α : Type} {room : Nat}

/-- A value of any kind is decoded to itself. -/
theorem anything_toDraft {e : Ending} (he : e.readFault? = none) (v : Json) :
    anything (v.toDraft e) = .ok v := by
  rw [anything, Json.toJson_toDraft he]

/-- A decoder takes what a writer writes back to what was written, and all that is written is
legible within `room` brackets. -/
structure Faithful (room : Nat) (decode : Draft → Decoded α) (write : α → Json) : Prop where
  /-- decoding undoes writing -/
  inverts : ∀ ⦃e : Ending⦄, e.readFault? = none → ∀ a, decode ((write a).toDraft e) = .ok a
  /-- what is written can be read -/
  legible : ∀ a, (write a).Legible room

/-- A text is decoded just if its value is and nothing stands behind it. -/
theorem decodeText_eq_ok_iff {decode : Draft → Decoded α} {s : String} {a : α} :
    decodeText decode s = .ok a ↔
      decode (Document.ofText s).root = .ok a ∧ (Document.ofText s).trailing = false := by
  rw [decodeText, bind_eq_ok_iff]
  cases (Document.ofText s).trailing <;> simp

/-- A legible value is read from its text as it is, so what it decodes to is what the text
decodes to. -/
theorem decodeText_render {decode : Draft → Decoded α} {v : Json} {a : α}
    (hlegible : v.Legible maxNesting) (hdecode : decode (v.toDraft .closed) = .ok a) :
    decodeText decode v.render = .ok a := by
  rw [decodeText_eq_ok_iff, Document.ofText_render hlegible]
  exact ⟨hdecode, rfl⟩

/-- **A written text is decoded to what was written.** -/
theorem Faithful.decodeText_render {decode : Draft → Decoded α} {write : α → Json}
    (h : Faithful maxNesting decode write) (a : α) :
    decodeText decode (write a).render = .ok a :=
  Decode.decodeText_render (h.legible a) (h.inverts (e := .closed) rfl a)

/-- A written value is read back as it is. -/
theorem decodeText_anything_render {v : Json} (h : v.Legible maxNesting) :
    decodeText anything v.render = .ok v :=
  Decode.decodeText_render h (anything_toDraft (e := .closed) rfl v)

/-! ## Values -/

theorem faithful_text : Faithful room text Json.str := ⟨fun _ _ _ => rfl, .str⟩

theorem faithful_boolean : Faithful room boolean Json.bool := ⟨fun _ _ _ => rfl, .bool⟩

/-- An integer within the bounds is taken. -/
theorem integer_of_le {low high n : Int} (hlow : low ≤ n) (hhigh : n ≤ high) (expected : String) :
    integer low high expected (.int n) = .ok n := if_pos ⟨hlow, hhigh⟩

theorem faithful_int64 : Faithful room int64 (fun n => Json.int n.toInt) := by
  have hlow (n : Int64) : minInt64 ≤ n.toInt := n.le_toInt
  have hhigh (n : Int64) : n.toInt ≤ maxInt64 := n.toInt_le
  refine ⟨fun e _ n => ?_, fun n => .int (hlow n) (Int.le_trans (hhigh n) (by decide))⟩
  rw [Json.toDraft, int64, integer_of_le (hlow n) (hhigh n)]
  exact congrArg Except.ok (Int64.ofInt_toInt n)

/-- Unsigned integers of a type of fixed width are decoded faithfully. -/
theorem faithful_unsigned {toNat : α → Nat} {ofNat : Nat → α} {high : Int}
    (hback : ∀ a, ofNat (toNat a) = a) (hhigh : ∀ a, (toNat a : Int) ≤ high)
    (hwide : high ≤ maxUInt64) (expected : String) :
    Faithful room (fun d => (integer 0 high expected d).map fun n => ofNat n.toNat)
      (fun a => Json.int (toNat a)) where
  inverts := by
    intro e _ a
    rw [Json.toDraft, integer_of_le (Int.natCast_nonneg _) (hhigh a)]
    exact congrArg Except.ok (hback a)
  legible a :=
    .int (Int.le_trans (by decide) (Int.natCast_nonneg _)) (Int.le_trans (hhigh a) hwide)

theorem faithful_uint64 : Faithful room uint64 (fun n => Json.int n.toNat) := by
  refine faithful_unsigned (fun _ => UInt64.ofNat_toNat) (fun n => ?_) (by decide) "usize"
  have := n.toNat_lt
  rw [maxUInt64]
  omega

theorem faithful_uint32 : Faithful room uint32 (fun n => Json.int n.toNat) := by
  refine faithful_unsigned (fun _ => UInt32.ofNat_toNat) (fun n => ?_) (by decide) "u32"
  have := n.toNat_lt
  omega

theorem faithful_uint16 : Faithful room uint16 (fun n => Json.int n.toNat) := by
  refine faithful_unsigned (fun _ => UInt16.ofNat_toNat) (fun n => ?_) (by decide) "u16"
  have := n.toNat_lt
  omega

/-- A list is decoded item by item. -/
theorem Faithful.list {decode : Draft → Decoded α} {write : α → Json}
    (h : Faithful room decode write) :
    Faithful (room + 1) (Decode.list decode) (fun as => Json.arr (as.map write)) where
  inverts := by
    intro e he as
    rw [Json.toDraft, Json.toDraftItems_eq_map, List.map_map, Decode.list]
    induction as with
    | nil => simp [items, he]
    | cons a rest ih =>
      rw [List.map_cons, items, ih, Function.comp_apply, h.inverts he a]
      rfl
  legible := by
    intro as
    refine .arr fun v hv => ?_
    obtain ⟨a, -, rfl⟩ := List.mem_map.mp hv
    exact h.legible a

theorem faithful_texts : Faithful (room + 1) (Decode.list text) Json.ofTexts := faithful_text.list

/-- A value that is rebuilt from what is written of it is decoded faithfully with that. -/
theorem Faithful.map {β : Type} {decode : Draft → Decoded α} {write : α → Json}
    (h : Faithful room decode write) {build : α → β} {parts : β → α}
    (hbuild : ∀ b, build (parts b) = b) :
    Faithful room (fun d => (decode d).map build) (fun b => write (parts b)) where
  inverts := by
    intro e he b
    rw [h.inverts he (parts b)]
    exact congrArg Except.ok (hbuild b)
  legible b := h.legible (parts b)

/-- A map is decoded member by member. -/
theorem map_toDraft {decode : Draft → Decoded α} {write : α → Json} {e : Ending}
    (he : e.readFault? = none) {entries : List (String × α)}
    (hdecode : ∀ m ∈ entries, decode ((write m.2).toDraft e) = .ok m.2) :
    Decode.map decode ((Json.obj (entries.map fun m => (m.1, write m.2))).toDraft e) =
      .ok entries := by
  rw [Json.toDraft, Json.toDraftMembers_eq_map, List.map_map, Decode.map]
  induction entries with
  | nil => simp [members, he]
  | cons m rest ih =>
    have hm : decode ((write m.2).toDraft e) = .ok m.2 := hdecode m List.mem_cons_self
    have hrest := ih fun m hm => hdecode m (List.mem_cons_of_mem _ hm)
    simp only [List.map_cons, Function.comp_apply, members, hm, bind, Except.bind] at hrest ⊢
    rw [hrest]

/-- A value that may be missing, which is `null` without one. -/
theorem Faithful.optional {decode : Draft → Decoded α} {write : α → Json}
    (h : Faithful room decode write) (hnull : ∀ a, write a ≠ .null) :
    Faithful room (Decode.optional decode) (fun o => o.elim .null write) where
  inverts := by
    intro e he o
    cases o with
    | none => rfl
    | some a =>
      have hd : (write a).toDraft e ≠ .null := by
        intro hd
        cases hw : write a with
        | null => exact hnull a hw
        | _ => rw [hw] at hd; cases hd
      have hstep : Decode.optional decode ((write a).toDraft e) =
          (decode ((write a).toDraft e)).map some := by
        rw [Decode.optional.eq_def]
        split
        · rename_i hd'
          exact absurd hd' hd
        · rfl
      show Decode.optional decode ((write a).toDraft e) = _
      rw [hstep, h.inverts he a]
      rfl
  legible := by
    intro o
    cases o with
    | none => exact .null
    | some a => exact h.legible a

theorem faithful_optionalText :
    Faithful room (Decode.optional text) (fun o => o.elim .null Json.str) :=
  faithful_text.optional fun _ h => by cases h

end Decode

namespace Layout

variable {l : Layout} {room : Nat}

/-! ## Records -/

/-- The fields of a layout are told apart by their labels. -/
structure Lawful (l : Layout) : Prop where
  /-- a label leads back to its field -/
  field?_label : ∀ f, l.field? (l.label f) = some f
  /-- no field is listed twice -/
  nodup : l.fields.Nodup

/-- The members of the listed fields that are given. -/
def membersOf (l : Layout) (write : (f : l.Field) → l.Value f → Json) (slots : l.Slots)
    (fields : List l.Field) : List (String × Json) :=
  fields.filterMap fun f => (slots f).map fun value => (l.label f, write f value)

/-- The members of the fields that are given, in the order of their declaration. -/
def given (l : Layout) (write : (f : l.Field) → l.Value f → Json) (slots : l.Slots) :
    List (String × Json) := l.membersOf write slots l.fields

theorem Lawful.mem_fields (hl : l.Lawful) (f : l.Field) : f ∈ l.fields :=
  List.mem_of_find?_eq_some (hl.field?_label f)

/-- Slots with the listed fields taken from other ones. -/
def Slots.overlay (slots others : l.Slots) (fields : List l.Field) : l.Slots :=
  fun f => if f ∈ fields then others f else slots f

theorem Lawful.overlay_fields (hl : l.Lawful) (slots others : l.Slots) :
    slots.overlay others l.fields = others := by
  funext f
  simp [Slots.overlay, hl.mem_fields f]

theorem Slots.overlay_nil (slots others : l.Slots) : slots.overlay others [] = slots := by
  funext f
  simp [Slots.overlay]

/-- A field that is missing on both sides does not count. -/
theorem Slots.overlay_cons_of_none {slots others : l.Slots} {f : l.Field} {fields : List l.Field}
    (hfree : slots f = none) (hnone : others f = none) :
    slots.overlay others (f :: fields) = slots.overlay others fields := by
  funext g
  by_cases hg : g = f
  · subst hg
    simp [Slots.overlay, hfree, hnone]
  · simp [Slots.overlay, hg]

/-- Filling a field first is the same as taking it with the others. -/
theorem Slots.overlay_cons_of_some {slots others : l.Slots} {f : l.Field} {fields : List l.Field}
    {value : l.Value f} (hf : f ∉ fields) (hsome : others f = some value) :
    slots.overlay others (f :: fields) = (slots.set f value).overlay others fields := by
  funext g
  by_cases hg : g = f
  · subst hg
    simp [Slots.overlay, hf, hsome]
  · simp [Slots.overlay, hg, Slots.set_of_ne _ (Ne.symm hg)]

/-- A member of a field that is not yet filled fills it, if it is decoded. -/
theorem readMembers_field {f : l.Field} {n : String} {r : l.Reading} (hf : l.field? n = some f)
    (hfree : r.slots f = none) (d : Draft) (rest : List (String × Draft)) (e : Ending) :
    l.readMembers ((n, d) :: rest) e r =
      l.decode f d >>= fun value =>
        l.readMembers rest e { r with slots := r.slots.set f value } := by
  rw [readMembers, hf]
  simp only [hfree]
  rfl

/-- The members of the listed fields fill just these, whatever follows. -/
theorem readMembers_membersOf (hl : l.Lawful) {write : (f : l.Field) → l.Value f → Json}
    {e : Ending} {slots : l.Slots}
    (hwrite : ∀ f value, slots f = some value → l.decode f ((write f value).toDraft e) = .ok value)
    {fields : List l.Field} (hnodup : fields.Nodup) {r : l.Reading}
    (hfree : ∀ f ∈ fields, r.slots f = none) (rest : List (String × Draft)) :
    l.readMembers (Json.toDraftMembers e (l.membersOf write slots fields) ++ rest) e r =
      l.readMembers rest e { r with slots := r.slots.overlay slots fields } := by
  -- The induction keeps that the fields still to come are free: this is what makes each of their
  -- members a first one.
  induction fields generalizing r with
  | nil =>
    rw [Slots.overlay_nil]
    rfl
  | cons f fields ih =>
    obtain ⟨hf, hnodup⟩ := List.nodup_cons.mp hnodup
    have hfree_f : r.slots f = none := hfree f List.mem_cons_self
    cases hslot : slots f with
    | none =>
      have hmembers : l.membersOf write slots (f :: fields) = l.membersOf write slots fields := by
        simp [membersOf, hslot]
      rw [hmembers, Slots.overlay_cons_of_none hfree_f hslot]
      exact ih hnodup (fun g hg => hfree g (List.mem_cons_of_mem _ hg))
    | some value =>
      have hmembers : l.membersOf write slots (f :: fields) =
          (l.label f, write f value) :: l.membersOf write slots fields := by
        simp [membersOf, hslot]
      have hrest : ∀ g ∈ fields, (r.slots.set f value) g = none := by
        intro g hg
        have hne : f ≠ g := by
          rintro rfl
          exact hf hg
        rw [Slots.set_of_ne _ hne]
        exact hfree g (List.mem_cons_of_mem _ hg)
      rw [hmembers, Json.toDraftMembers, List.cons_append,
        readMembers_field (hl.field?_label f) hfree_f, hwrite f value hslot,
        Slots.overlay_cons_of_some hf hslot]
      exact ih (r := { r with slots := r.slots.set f value }) hnodup hrest

/-- Members that are no fields are kept behind those already kept. -/
theorem readMembers_kept (hkept : l.unlisted = .kept) {e : Ending} (he : e.readFault? = none)
    {members : List (String × Json)} (hmembers : ∀ m ∈ members, l.field? m.1 = none)
    (r : l.Reading) :
    l.readMembers (Json.toDraftMembers e members) e r =
      .ok { r with others := r.others ++ members } := by
  induction members generalizing r with
  | nil => simp [Json.toDraftMembers, readMembers, he]
  | cons m members ih =>
    obtain ⟨n, v⟩ := m
    have hn : l.field? n = none := hmembers (n, v) List.mem_cons_self
    rw [Json.toDraftMembers, readMembers, hn]
    simp only [hkept, Decode.anything_toDraft he, bind, Except.bind]
    rw [ih (fun m hm => hmembers m (List.mem_cons_of_mem _ hm)), List.append_assoc,
      List.singleton_append]

/-- Reading the members of the fields that are given fills just their slots, if their values are
decoded to what was written. -/
theorem read_given (hl : l.Lawful) {write : (f : l.Field) → l.Value f → Json} {e : Ending}
    (he : e.readFault? = none) {slots : l.Slots}
    (hwrite : ∀ f value, slots f = some value →
      l.decode f ((write f value).toDraft e) = .ok value) :
    l.read ((Json.obj (l.given write slots)).toDraft e) = .ok ⟨slots, []⟩ := by
  have hread := readMembers_membersOf hl hwrite hl.nodup (r := ⟨l.noSlots, []⟩)
    (fun _ _ => rfl) []
  rw [Json.toDraft, read, given, ← List.append_nil (Json.toDraftMembers _ _), hread, readMembers,
    he, hl.overlay_fields]

/-- A written record with other members behind it is read back if these are kept. -/
theorem read_given_append (hl : l.Lawful) (hkept : l.unlisted = .kept)
    {write : (f : l.Field) → l.Value f → Json}
    (hwrite : ∀ f, Decode.Faithful room (l.decode f) (write f)) {e : Ending}
    (he : e.readFault? = none) (slots : l.Slots) {members : List (String × Json)}
    (hmembers : ∀ m ∈ members, l.field? m.1 = none) :
    l.read ((Json.obj (l.given write slots ++ members)).toDraft e) = .ok ⟨slots, members⟩ := by
  have hdecode : ∀ f value, slots f = some value →
      l.decode f ((write f value).toDraft e) = .ok value :=
    fun f value _ => (hwrite f).inverts he value
  have hread := readMembers_membersOf hl hdecode hl.nodup (r := ⟨l.noSlots, []⟩)
    (fun _ _ => rfl) (Json.toDraftMembers e members)
  have happend : Json.toDraftMembers e (l.given write slots ++ members) =
      Json.toDraftMembers e (l.given write slots) ++ Json.toDraftMembers e members := by
    simp only [Json.toDraftMembers_eq_map, List.map_append]
  rw [Json.toDraft, read, happend, given, hread, readMembers_kept hkept he hmembers,
    hl.overlay_fields]
  rfl

/-- The members of the fields that are given can be read if the values of these fields can. -/
theorem legible_given {write : (f : l.Field) → l.Value f → Json} {slots : l.Slots}
    (hwrite : ∀ f value, slots f = some value → (write f value).Legible room) :
    ∀ m ∈ l.given write slots, m.2.Legible room := by
  intro m hm
  obtain ⟨f, -, hf⟩ := List.mem_filterMap.mp hm
  obtain ⟨value, hslot, rfl⟩ := Option.map_eq_some_iff.mp hf
  exact hwrite f value hslot

/-- **A record is decoded faithfully if its fields are**: it is written as the members of its
slots, and decoded from the slots that are read. -/
theorem faithful (hl : l.Lawful) {write : (f : l.Field) → l.Value f → Json}
    (hwrite : ∀ f, Decode.Faithful room (l.decode f) (write f)) {α : Type} (slots : α → l.Slots)
    {decode : Draft → Decoded α} {toJson : α → Json}
    (hjson : ∀ a, toJson a = .obj (l.given write (slots a)))
    (hdecode : ∀ a d, l.read d = .ok ⟨slots a, []⟩ → decode d = .ok a) :
    Decode.Faithful (room + 1) decode toJson where
  inverts := by
    intro e he a
    rw [hjson]
    exact hdecode a _ (read_given hl he fun f value _ => (hwrite f).inverts he value)
  legible := by
    intro a
    rw [hjson]
    exact .obj (legible_given fun f value _ => (hwrite f).legible value)

end Layout

end RelationalCatalog
