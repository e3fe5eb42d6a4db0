import RelationalCatalog.Proofs.Rest.Element
import RelationalCatalog.Rest.Envelope

/-!
# Written envelopes are read back

Writing an envelope and reading its text again gives the same envelope, whichever of its payloads
it has (`Envelope.decodeText_render_payloads`).

The members of an envelope and those of its payload are written into one object. They are told
apart by their names, as no payload has a member that is named like one of the envelope's
(`PayloadForm.Lawful`). So the reader gets back the fields of the envelope and, behind them,
just the members of the payload (`Layout.read_given_append`). What remains is that the fields
tell which outcome there was: a failure always has a class name, and a success never has one.
-/

namespace RelationalCatalog

open Decode

variable {room : Nat}

/-- What makes a payload one that can be written into an envelope. -/
structure PayloadForm.Lawful {P : Type} (form : PayloadForm P) : Prop where
  /-- an object of the payload alone is read back -/
  faithful : Faithful maxNesting form.decode form.toJson
  /-- no member of the payload is taken for one of the envelope -/
  apart : ∀ payload, ∀ m ∈ form.members payload, Envelope.layout.field? m.1 = none

/-! ## Payloads -/

namespace TypeElement

/-- The fields of a type, all of which are given. -/
def slots (t : TypeElement) : layout.Slots
  | .name => some t.name
  | .description => some t.description
  | .superTypeNames => some t.superTypeNames

/-- How the fields of a type are written. -/
def writeField : (f : Field) → layout.Value f → Json
  | .name => Json.str
  | .description => Json.str
  | .superTypeNames => Json.ofTexts

theorem lawful_layout : layout.Lawful where
  field?_label := by intro f; cases f <;> rfl
  nodup := by decide

theorem faithful_writeField (f : Field) :
    Faithful (room + 1) (layout.decode f) (writeField f) := by
  cases f with
  | name | description => exact faithful_text
  | superTypeNames => exact faithful_texts

theorem faithful_typeElement : Faithful (room + 2) decode (fun t => .obj t.members) := by
  refine Layout.faithful lawful_layout faithful_writeField slots (fun _ => rfl) ?_
  intro t d hd
  rw [decode, hd]
  rfl

end TypeElement

namespace SupportedTypes

theorem lawful_layout : layout.Lawful where
  field?_label _ := rfl
  nodup := by decide

theorem lawful_payloadForm : payloadForm.Lawful where
  faithful := by
    refine Layout.faithful lawful_layout (fun _ => TypeElement.faithful_typeElement.list)
      (fun p _ => some p.types) (fun _ => rfl) ?_
    intro p d hd
    show decode d = .ok p
    rw [decode, hd]
    rfl
  apart := by
    intro p m hm
    obtain rfl := List.mem_singleton.mp hm
    rfl

end SupportedTypes

namespace SingleElement

theorem lawful_layout (k : BeanKind) : (layout k.wireForm).Lawful where
  field?_label _ := rfl
  nodup := List.pairwise_singleton _ _

theorem lawful_payloadForm (k : BeanKind) : (payloadForm k.wireForm).Lawful where
  faithful := by
    refine Layout.faithful (lawful_layout k) (fun _ => k.faithful_wireForm)
      (fun p _ => some p.element) (fun _ => rfl) ?_
    intro p d hd
    show decode k.wireForm d = .ok p
    rw [decode, hd]
    rfl
  apart := by
    intro p m hm
    obtain rfl := List.mem_singleton.mp hm
    rfl

end SingleElement

namespace ElementList

/-- The fields of a page of elements, all of which are given. -/
def slots {δ : Type} (form : WireForm δ) (p : ElementList δ) : (layout form).Slots
  | .elements => some p.elements
  | .startFrom => some p.startFrom
  | .pageSize => some p.pageSize

/-- How the fields of a page of elements are written. -/
def writeField {δ : Type} (form : WireForm δ) : (f : Field) → (layout form).Value f → Json
  | .elements => fun elements => Json.arr (elements.map form.toJson)
  | .startFrom => fun n => Json.int n.toNat
  | .pageSize => fun n => Json.int n.toNat

theorem lawful_layout (k : BeanKind) : (layout k.wireForm).Lawful where
  field?_label := by intro f; cases f <;> rfl
  nodup := by
    show [Field.elements, .startFrom, .pageSize].Nodup
    decide

theorem faithful_writeField (k : BeanKind) (f : Field) :
    Faithful (room + 3) ((layout k.wireForm).decode f) (writeField k.wireForm f) := by
  cases f with
  | elements => exact k.faithful_wireForm.list
  | startFrom | pageSize => exact faithful_uint64

theorem lawful_payloadForm (k : BeanKind) : (payloadForm k.wireForm).Lawful where
  faithful := by
    refine Layout.faithful (lawful_layout k) (faithful_writeField k) (slots k.wireForm)
      (fun _ => rfl) ?_
    intro p d hd
    show decode k.wireForm d = .ok p
    rw [decode, hd]
    rfl
  apart := by
    intro p m hm
    simp only [payloadForm, List.mem_cons, List.not_mem_nil, or_false] at hm
    rcases hm with rfl | rfl | rfl <;> rfl

end ElementList

/-! ## Envelopes -/

namespace Envelope

variable {P : Type} {form : PayloadForm P}

/-- The fields of an envelope that are given. -/
def slots (e : Envelope P) : layout.Slots
  | .action => e.action.map some
  | .code => some e.code
  | .className => e.failure?.map fun f => some f.className
  | .messageId => e.failure?.bind fun f => f.messageId.map some
  | .message => e.failure?.map fun f => some f.message
  | .systemAction => e.failure?.bind fun f => f.systemAction.map some
  | .userAction => e.failure?.bind fun f => f.userAction.map some

/-- How the fields of an envelope are written. -/
def writeField : (f : Field) → layout.Value f → Json
  | .action => fun o => o.elim .null Json.str
  | .code => fun n => Json.int n.toNat
  | .className => fun o => o.elim .null Json.str
  | .messageId => fun o => o.elim .null Json.str
  | .message => fun o => o.elim .null Json.str
  | .systemAction => fun o => o.elim .null Json.str
  | .userAction => fun o => o.elim .null Json.str

/-- The members of the payload, if there is one. -/
def payloadMembers (form : PayloadForm P) (e : Envelope P) : List (String × Json) :=
  e.payload?.elim [] form.members

theorem lawful_layout : layout.Lawful where
  field?_label := by intro f; cases f <;> rfl
  nodup := by decide

theorem faithful_writeField (f : Field) : Faithful room (layout.decode f) (writeField f) := by
  cases f with
  | action | className | messageId | message | systemAction | userAction =>
    exact faithful_optionalText
  | code => exact faithful_uint16

theorem toJson_eq_given (e : Envelope P) :
    e.toJson form = .obj (layout.given writeField e.slots ++ e.payloadMembers form) := by
  obtain ⟨action, outcome⟩ := e
  cases outcome with
  | success payload => cases action <;> rfl
  | failure f =>
    obtain ⟨code, className, messageId, message, systemAction, userAction⟩ := f
    cases action <;> cases messageId <;> cases systemAction <;> cases userAction <;> rfl

/-- No member of the payload is taken for one of the envelope. -/
theorem apart_payloadMembers (hform : form.Lawful) (e : Envelope P) :
    ∀ m ∈ e.payloadMembers form, layout.field? m.1 = none := by
  obtain ⟨action, outcome⟩ := e
  cases outcome with
  | success payload => exact hform.apart payload
  | failure f => exact fun _ hm => absurd hm List.not_mem_nil

/-- The fields of an envelope and the members of its payload lead back to the envelope. -/
theorem decode_of_read (hform : form.Lawful) (e : Envelope P) {d : Draft}
    (hd : layout.read d = .ok ⟨e.slots, e.payloadMembers form⟩) :
    decode form d = .ok e := by
  obtain ⟨action, outcome⟩ := e
  cases outcome with
  | success payload =>
    have hpayload : form.decode (Json.obj (form.members payload)).draft = .ok payload :=
      hform.faithful.inverts (e := .counted) rfl payload
    have hparts : Parts.decode form d =
        .ok ⟨action, successCode, none, none, none, none, none, some payload⟩ := by
      rw [Parts.decode, hd]
      simp only [payloadMembers, payload?, Option.elim_some, hpayload, bind, Except.bind]
      cases action <;> rfl
    rw [decode, hparts]
    rfl
  | failure f =>
    obtain ⟨code, className, messageId, message, systemAction, userAction⟩ := f
    -- A payload may well be read from no members at all; the class name comes first.
    have hparts : Parts.decode form d =
        .ok ⟨action, code, some className, messageId, some message, systemAction, userAction,
          (form.decode (Json.obj []).draft).toOption⟩ := by
      rw [Parts.decode, hd]
      simp only [payloadMembers, payload?, Option.elim_none, bind, Except.bind]
      cases action <;> cases messageId <;> cases systemAction <;> cases userAction <;> rfl
    rw [decode, hparts]
    rfl

theorem legible_toJson (hform : form.Lawful) (e : Envelope P) :
    (e.toJson form).Legible maxNesting := by
  have hpayload : ∀ m ∈ e.payloadMembers form, m.2.Legible (maxNesting - 1) := by
    obtain ⟨action, outcome⟩ := e
    cases outcome with
    | success payload => exact (hform.faithful.legible payload).of_mem
    | failure f => exact fun _ hm => absurd hm List.not_mem_nil
  rw [toJson_eq_given]
  refine .obj fun m hm => ?_
  rcases List.mem_append.mp hm with hm | hm
  · exact Layout.legible_given (fun f value _ => (faithful_writeField f).legible value) m hm
  · exact hpayload m hm

/-- **An envelope is decoded faithfully** if its payload is. -/
theorem faithful_envelope (hform : form.Lawful) :
    Faithful maxNesting (decode form) (toJson form) where
  inverts := by
    intro ending hending e
    have hwrite : ∀ f, Faithful 0 (layout.decode f) (writeField f) := faithful_writeField
    rw [toJson_eq_given]
    exact decode_of_read hform e (Layout.read_given_append lawful_layout rfl hwrite hending e.slots
      (apart_payloadMembers hform e))
  legible := legible_toJson hform

/-- **Writing an envelope and reading its text gives the envelope back**, for each of the
payloads and each kind of beans in them. -/
theorem decodeText_render_payloads :
    (∀ e : Envelope SupportedTypes,
      decodeText (decode SupportedTypes.payloadForm) (e.render SupportedTypes.payloadForm) =
        .ok e) ∧
    (∀ (k : BeanKind) (e : Envelope (SingleElement k.Element)),
      decodeText (decode (SingleElement.payloadForm k.wireForm))
        (e.render (SingleElement.payloadForm k.wireForm)) = .ok e) ∧
    (∀ (k : BeanKind) (e : Envelope (ElementList k.Element)),
      decodeText (decode (ElementList.payloadForm k.wireForm))
        (e.render (ElementList.payloadForm k.wireForm)) = .ok e) := by
  refine ⟨fun e => ?_, fun k e => ?_, fun k e => ?_⟩
  · exact (faithful_envelope SupportedTypes.lawful_payloadForm).decodeText_render e
  · exact (faithful_envelope (SingleElement.lawful_payloadForm k)).decodeText_render e
  · exact (faithful_envelope (ElementList.lawful_payloadForm k)).decodeText_render e

end Envelope

end RelationalCatalog
