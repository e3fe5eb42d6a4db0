import RelationalCatalog.Json.Decoding

/-!
# Records

A record is written as an object whose members are its fields, or as an array of its fields in
the order of their declaration. A `Layout` describes the fields of a record once: their labels,
what their values are and how these are decoded, and what holds for a field that is not given.
Decoding gives a *slot* for every field, filled or not.

Members are taken in the order of the text. A member of an unknown name is refused, skipped or
kept aside, as the layout says; a second member of a known name is refused as soon as its name
is read. That a field is missing is only said when the whole record has been read.
-/

namespace RelationalCatalog

/-- What holds for a field that is not given. -/
inductive Absence (α : Type)
  /-- It must be given. -/
  | refused
  /-- It may be left out of an object, but an array must have it. -/
  | fromObject (value : α)
  /-- It may be left out of an object, and at the end of an array. -/
  | anywhere (value : α)

/-- What is done with a member that is no field. -/
inductive Unlisted
  | refused
  | skipped
  | kept
deriving DecidableEq

/-- The form of a record. -/
structure Layout where
  /-- The name of the record in messages. -/
  title : String
  /-- The fields. -/
  Field : Type
  /-- Fields can be told apart. -/
  [fieldEq : DecidableEq Field]
  /-- The fields in the order of their declaration. -/
  fields : List Field
  /-- The name of a field's member. -/
  label : Field → String
  /-- The values of a field. -/
  Value : Field → Type
  /-- How a field's value is decoded. -/
  decode : (f : Field) → Draft → Decoded (Value f)
  /-- What holds for a field that is not given. -/
  absence : (f : Field) → Absence (Value f)
  /-- What is done with other members. -/
  unlisted : Unlisted
  /-- Whether the record may be written as an array. -/
  positional : Bool

namespace Layout

instance (l : Layout) : DecidableEq l.Field := l.fieldEq

/-- The values read so far. -/
def Slots (l : Layout) : Type := (f : l.Field) → Option (l.Value f)

/-- Slots with nothing in them. -/
def noSlots (l : Layout) : l.Slots := fun _ => none

/-- Fills the slot of a field. -/
def Slots.set {l : Layout} (slots : l.Slots) (f : l.Field) (value : l.Value f) : l.Slots :=
  fun g => if h : f = g then some (h ▸ value) else slots g

@[simp] theorem Slots.set_self {l : Layout} (slots : l.Slots) (f : l.Field)
    (value : l.Value f) : slots.set f value f = some value := by
  simp [Slots.set]

theorem Slots.set_of_ne {l : Layout} (slots : l.Slots) {f g : l.Field} (h : f ≠ g)
    (value : l.Value f) : slots.set f value g = slots g := by
  simp [Slots.set, h]

/-- The field with a label. -/
def field? (l : Layout) (label : String) : Option l.Field :=
  l.fields.find? (fun f => l.label f == label)

/-- What a record is expected to be. -/
def expectation (l : Layout) : String := "struct " ++ l.title

/-- What a record written as an array is expected to be. -/
def arrayExpectation (l : Layout) : String :=
  let n := l.fields.length
  s!"{l.expectation} with {n} element" ++ if n = 1 then "" else "s"

/-- A record as it was read: the slots of its fields, and the other members if they are
kept. -/
structure Reading (l : Layout) where
  /-- The values of the fields that were given. -/
  slots : l.Slots
  /-- The other members, in their order. -/
  others : List (String × Json)

/-- Reads members, behind those already read. -/
def readMembers (l : Layout) :
    List (String × Draft) → Ending → l.Reading → Decoded l.Reading
  | [], e, r =>
    match e.readFault? with
    | some f => .error f.toError
    | none => .ok r
  | (n, d) :: rest, e, r =>
    match l.field? n with
    | some f =>
      if (r.slots f).isSome then .error (.mismatch (.duplicateField n))
      else do
        let value ← l.decode f d
        readMembers l rest e { r with slots := r.slots.set f value }
    | none =>
      match l.unlisted with
      | .refused => .error (.mismatch (.unknownField n (l.fields.map l.label)))
      | .skipped =>
        match d.skipFault? with
        | some f => .error f.toError
        | none => readMembers l rest e r
      | .kept => do
        let value ← Decode.anything d
        readMembers l rest e { r with others := r.others ++ [(n, value)] }

/-- The error of an array with more items than the record has fields. -/
def surplus (length : Nat) : Ending → Option DecodeError
  | .uncounted => none
  | .counted => some (.mismatch (.invalidLength length "fewer elements in array"))
  | .closed => some .malformed
  | .broken _ _ => some .malformed

/-- Reads the items of an array as the fields, beginning with the one at `position`. -/
def readItems (l : Layout) (length : Nat) :
    (position : Nat) → List l.Field → List Draft → Ending → l.Reading → Decoded l.Reading
  | _, [], [], e, r =>
    match e.readFault? with
    | some f => .error f.toError
    | none => .ok r
  | _, [], _ :: _, e, r =>
    match surplus length e with
    | some error => .error error
    | none => .ok r
  | position, f :: fields, [], e, r =>
    match e.readFault? with
    | some fault => .error fault.toError
    | none =>
      match l.absence f with
      | .anywhere _ => readItems l length (position + 1) fields [] e r
      | _ => .error (.mismatch (.invalidLength position l.arrayExpectation))
  | position, f :: fields, d :: rest, e, r => do
    let value ← l.decode f d
    readItems l length (position + 1) fields rest e { r with slots := r.slots.set f value }

/-- Reads a record. -/
def read (l : Layout) : Draft → Decoded l.Reading
  | .obj ms e => l.readMembers ms e ⟨l.noSlots, []⟩
  | .arr ds e =>
    if l.positional then l.readItems ds.length 0 l.fields ds e ⟨l.noSlots, []⟩
    else .error (Decode.unexpected l.expectation (.arr ds e))
  | d => .error (Decode.unexpected l.expectation d)

/-- The value of a field: the one given, or else the one that its absence stands for. -/
def Reading.take {l : Layout} (r : l.Reading) (f : l.Field) : Decoded (l.Value f) :=
  match r.slots f with
  | some value => .ok value
  | none =>
    match l.absence f with
    | .refused => .error (.mismatch (.missingField (l.label f)))
    | .fromObject value => .ok value
    | .anywhere value => .ok value

end Layout

end RelationalCatalog
