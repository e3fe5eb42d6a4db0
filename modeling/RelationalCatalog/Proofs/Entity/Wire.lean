import RelationalCatalog.Entity.Wire
import RelationalCatalog.Proofs.Json.Record

/-!
# Written entities are read back

The kind of a property is not written, so a property is read back only if its written form is
refused by all the forms that are tried before its own (`Property.ofJson?_toJson`). Floating-point
numbers are left out: one that is not finite is written as `null`, and the digits of another one
need not be read as the same number.

An entity without such properties is read back from its text as it is
(`Entity.decodeText_render_of_ne_float`), since its properties and its classifications are written
in the order in which they are kept.
-/

namespace RelationalCatalog

open Decode

variable {room : Nat}

/-! ## Symbols and classifications -/

namespace StoredSymbol

/-- The fields of a symbol, both of which are given. -/
def slots (s : StoredSymbol) : layout.Slots
  | .ordinal => some s.ordinal
  | .symbolicName => some s.symbolicName

/-- How the fields of a symbol are written. -/
def writeField : (f : Field) → layout.Value f → Json
  | .ordinal => fun n => Json.int n.toNat
  | .symbolicName => Json.str

theorem lawful_layout : layout.Lawful where
  field?_label := by intro f; cases f <;> rfl
  nodup := by decide

theorem faithful_writeField (f : Field) : Faithful room (layout.decode f) (writeField f) := by
  cases f with
  | ordinal => exact faithful_uint32
  | symbolicName => exact faithful_text

theorem faithful_storedSymbol : Faithful (room + 1) decode toJson := by
  refine Layout.faithful lawful_layout faithful_writeField slots (fun _ => rfl) ?_
  intro s d hd
  rw [decode, hd]
  rfl

end StoredSymbol

theorem lawful_classificationLayout : classificationLayout.Lawful where
  field?_label := by intro f; cases f; rfl
  nodup := by decide

theorem faithful_classification :
    Faithful (room + 1) decodeClassification classificationJson := by
  have hwrite (f : Unit) : Faithful room (classificationLayout.decode f) Json.str := faithful_text
  refine Layout.faithful lawful_classificationLayout hwrite (fun name _ => some name)
    (fun _ => rfl) ?_
  intro name d hd
  rw [decodeClassification, hd]
  rfl

/-! ## Properties -/

namespace Property

/-- **The first form that takes a written property is its own**: no form that is tried before
takes it. -/
theorem ofJson?_toJson {p : Property} (hp : ∀ x, p ≠ .float x) : ofJson? p.toJson = some p := by
  cases p with
  | null | bool | text => rfl
  | int n =>
    have hfaithful : Faithful 0 int64 fun n => .int n.toInt := faithful_int64
    have hint : int64 (.int n.toInt) = .ok n := hfaithful.inverts (e := .counted) rfl n
    simp only [ofJson?, forms, toJson, Json.draft, Json.toDraft, List.findSome?_cons, unit, boolean,
      hint, Except.map, Except.toOption]
  | float x => exact absurd rfl (hp x)
  | symbol s =>
    have hfaithful : Faithful 1 StoredSymbol.decode StoredSymbol.toJson :=
      StoredSymbol.faithful_storedSymbol
    have hsymbol : StoredSymbol.decode s.toJson.draft = .ok s := hfaithful.inverts rfl s
    -- A symbol is written as an object, which none of the other forms takes.
    obtain ⟨members, hobj⟩ : ∃ members, s.toJson.draft = .obj members .counted := ⟨_, rfl⟩
    rw [hobj] at hsymbol
    simp only [ofJson?, forms, toJson, hobj, List.findSome?_cons, unit, boolean, int64, integer,
      Decode.float, Decode.text, hsymbol, Except.map, Except.toOption]

theorem decode_toJson {p : Property} (hp : ∀ x, p ≠ .float x) {e : Ending}
    (he : e.readFault? = none) : decode (p.toJson.toDraft e) = .ok p := by
  simp only [decode, anything_toDraft he, ofJson?_toJson hp, bind, Except.bind]

theorem legible_toJson {p : Property} (hp : ∀ x, p ≠ .float x) :
    p.toJson.Legible (room + 1) := by
  cases p with
  | null => exact .null
  | bool b => exact .bool b
  | int n => exact faithful_int64.legible n
  | float x => exact absurd rfl (hp x)
  | text s => exact .str s
  | symbol s => exact StoredSymbol.faithful_storedSymbol.legible s

end Property

/-! ## Entities -/

namespace Entity

/-- The fields of an entity, all of which are given. -/
def slots (e : Entity) : layout.Slots
  | .guid => some e.guid
  | .typeName => some e.typeName
  | .properties => some e.properties
  | .classifications => some e.classifications

/-- How the fields of an entity are written. -/
def writeField : (f : Field) → layout.Value f → Json
  | .guid => Json.str
  | .typeName => Json.str
  | .properties => fun m => Json.obj (m.entries.map fun p => (p.1, p.2.toJson))
  | .classifications => fun s => Json.arr (s.names.map classificationJson)

theorem lawful_layout : layout.Lawful where
  field?_label := by intro f; cases f <;> rfl
  nodup := by decide

theorem toJson_eq_given (e : Entity) : e.toJson = .obj (layout.given writeField e.slots) := rfl

/-- Classifications are written in their order, and decoded to the set of them. -/
theorem faithful_classifications :
    Faithful (room + 2) (layout.decode .classifications) (writeField .classifications) :=
  faithful_classification.list.map NameSet.ofList_names

section NoFloats

variable {e : Entity} (hfloat : ∀ name x, e.property? name ≠ some (.float x))
include hfloat

theorem ne_float_of_mem : ∀ p ∈ e.properties.entries, ∀ x, p.2 ≠ .float x := by
  rintro ⟨name, value⟩ hmem x rfl
  exact hfloat name x (SortedMap.get?_eq_some_iff.2 hmem)

/-- Properties are written in their order, and decoded to the map of them. -/
theorem decode_properties {ending : Ending} (hending : ending.readFault? = none) :
    layout.decode .properties ((writeField .properties e.properties).toDraft ending) =
      .ok e.properties := by
  have hentries := map_toDraft hending fun p hp =>
    Property.decode_toJson (ne_float_of_mem hfloat p hp) hending
  show (Decode.map Property.decode _).map SortedMap.ofList = _
  rw [writeField, hentries]
  exact congrArg Except.ok e.properties.ofList_entries

theorem decode_toJson {ending : Ending} (hending : ending.readFault? = none) :
    decode (e.toJson.toDraft ending) = .ok e := by
  have hfield (f : Field) (value : layout.Value f) (hslot : e.slots f = some value) :
      layout.decode f ((writeField f value).toDraft ending) = .ok value := by
    cases f with
    | guid | typeName => rfl
    | properties =>
      obtain rfl := Option.some.inj hslot
      exact decode_properties hfloat hending
    | classifications =>
      have hfaithful : Faithful 2 (layout.decode .classifications) (writeField .classifications) :=
        faithful_classifications
      exact hfaithful.inverts hending value
  rw [toJson_eq_given, decode, Layout.read_given lawful_layout hending hfield]
  rfl

theorem legible_toJson : e.toJson.Legible (room + 3) := by
  rw [toJson_eq_given]
  refine .obj (Layout.legible_given fun f value hslot => ?_)
  cases f with
  | guid | typeName => exact .str value
  | properties =>
    obtain rfl := Option.some.inj hslot
    refine .obj fun m hm => ?_
    obtain ⟨p, hp, rfl⟩ := List.mem_map.1 hm
    exact Property.legible_toJson (ne_float_of_mem hfloat p hp)
  | classifications => exact faithful_classifications.legible value

/-- **An entity whose properties are no floating-point numbers is read back from its text as it
is**, each property with its kind and its value. -/
theorem decodeText_render_of_ne_float : decodeText decode e.render = .ok e :=
  Decode.decodeText_render (legible_toJson hfloat) (decode_toJson hfloat rfl)

end NoFloats

/-- An entity of texts that look like other things, and of numbers at the ends of their ranges. -/
def lookalikes : Entity where
  guid := "\"\n"
  typeName := "null"
  properties :=
    ⟨[("", .null), ("flag", .text "true"), ("least", .int Int64.minValue), ("nil", .text "null"),
      ("number", .text "7"), ("symbol", .symbol ⟨4294967295, "ordinal"⟩),
      ("text", .text "\x7b\"ordinal\":0,\"symbolicName\":\"ASC\"\x7d")], by decide⟩
  classifications := .ofList ["PrimaryKey", "Pii"]

theorem lookalikes_read_back :
    (∀ name x, lookalikes.property? name ≠ some (.float x)) ∧
      decodeText decode lookalikes.render = .ok lookalikes := by
  have hfloat (name : String) (x : Binary64) : lookalikes.property? name ≠ some (.float x) := by
    intro hx
    have hmem := SortedMap.get?_eq_some_iff.1 hx
    simp [lookalikes] at hmem
  exact ⟨hfloat, decodeText_render_of_ne_float hfloat⟩

end Entity

end RelationalCatalog
