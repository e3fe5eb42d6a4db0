import RelationalCatalog.Json.Draft
import RelationalCatalog.Number.Shortest
import RelationalCatalog.Text.Shown

/-!
# Decoding drafts

A decoder takes a draft to a value of the domain or to the first problem in it. Problems of form
(`malformed`, `cutOff`) come from the faults of the draft; a problem of content is a `Mismatch`,
which says what was found and what was expected. A number, a text or a word is read to its end
before it is found to be of the wrong type, while a bracket of the wrong type is refused as it
stands, whatever is in it.
-/

namespace RelationalCatalog

/-- What a decoder finds in place of what it expects. -/
inductive Found
  | null
  | boolean (b : Bool)
  | integer (n : Int)
  | float (x : Binary64)
  | text (s : String)
  | sequence
  | map

/-- The wording for what was found. -/
def Found.describe : Found → String
  | .null => "null"
  | .boolean b => s!"boolean `{b}`"
  | .integer n => s!"integer `{intText n}`"
  | .float x => "floating point `" ++ String.ofList (FloatFormat.wire.write x) ++ "`"
  | .text s => "string " ++ shown s
  | .sequence => "sequence"
  | .map => "map"

/-- Names as a message offers them to choose from. -/
def offer (names : List String) : String :=
  let quoted := names.map (fun n => s!"`{n}`")
  match quoted with
  | [] => "there are no candidates"
  | [a] => a
  | [a, b] => s!"{a} or {b}"
  | _ => "one of " ++ ", ".intercalate quoted

/-- The ways in which a JSON value is not of the form that is wanted. -/
inductive Mismatch
  /-- A value of another type. -/
  | invalidType (found : Found) (expected : String)
  /-- A value of the right type that cannot be taken. -/
  | invalidValue (found : Found) (expected : String)
  /-- An array of the wrong length. -/
  | invalidLength (length : Nat) (expected : String)
  /-- A record without a field that it needs. -/
  | missingField (name : String)
  /-- A record with a field twice. -/
  | duplicateField (name : String)
  /-- A record with a field that it must not have. -/
  | unknownField (name : String) (fields : List String)
  /-- A word that is none of those to choose from. -/
  | unknownVariant (name : String) (variants : List String)
  /-- A value that fits none of the forms of a type. -/
  | noVariant (title : String)
  /-- A reason of the domain. -/
  | refused (reason : String)

/-- The message of a mismatch. -/
def Mismatch.message : Mismatch → String
  | .invalidType found expected => s!"invalid type: {found.describe}, expected {expected}"
  | .invalidValue found expected => s!"invalid value: {found.describe}, expected {expected}"
  | .invalidLength length expected => s!"invalid length {length}, expected {expected}"
  | .missingField name => s!"missing field `{name}`"
  | .duplicateField name => s!"duplicate field `{name}`"
  | .unknownField name fields => s!"unknown field `{name}`, expected {offer fields}"
  | .unknownVariant name variants => s!"unknown variant `{name}`, expected {offer variants}"
  | .noVariant title => s!"data did not match any variant of untagged enum {title}"
  | .refused reason => reason

/-- Why a text or value is not decoded. -/
inductive DecodeError
  /-- The text is not JSON. -/
  | malformed
  /-- The text ends too early. -/
  | cutOff
  /-- The value has the wrong form. -/
  | mismatch (m : Mismatch)

/-- The wording of an error. -/
def DecodeError.message : DecodeError → String
  | .malformed => "the text is not JSON"
  | .cutOff => "the text ends too early"
  | .mismatch m => m.message

/-- A fault as an error. -/
def Fault.toError : Fault → DecodeError
  | .malformed => .malformed
  | .cutOff => .cutOff

/-- What decoding gives. -/
abbrev Decoded (α : Type) := Except DecodeError α

namespace Decode

/-- The error of a value that was found where another one was expected. -/
def unexpected (expected : String) : Draft → DecodeError
  | .null => .mismatch (.invalidType .null expected)
  | .bool b => .mismatch (.invalidType (.boolean b) expected)
  | .int n => .mismatch (.invalidType (.integer n) expected)
  | .float x => .mismatch (.invalidType (.float x) expected)
  | .str s => .mismatch (.invalidType (.text s) expected)
  | .arr _ _ => .mismatch (.invalidType .sequence expected)
  | .obj _ _ => .mismatch (.invalidType .map expected)
  | .fault f _ => f.toError

/-- A text. -/
def text : Draft → Decoded String
  | .str s => .ok s
  | d => .error (unexpected "a string" d)

/-- A truth value. -/
def boolean : Draft → Decoded Bool
  | .bool b => .ok b
  | d => .error (unexpected "a boolean" d)

/-- Nothing. -/
def unit : Draft → Decoded Unit
  | .null => .ok ()
  | d => .error (unexpected "unit" d)

/-- An integer from `low` to `high`. -/
def integer (low high : Int) (expected : String) : Draft → Decoded Int
  | .int n =>
    if low ≤ n ∧ n ≤ high then .ok n
    else .error (.mismatch (.invalidValue (.integer n) expected))
  | d => .error (unexpected expected d)

/-- A signed integer of 64 bits. -/
def int64 (d : Draft) : Decoded Int64 :=
  (integer minInt64 maxInt64 "i64" d).map Int64.ofInt

/-- An unsigned integer of 64 bits. -/
def uint64 (d : Draft) : Decoded UInt64 :=
  (integer 0 maxUInt64 "usize" d).map (fun n => UInt64.ofNat n.toNat)

/-- An unsigned integer of 16 bits. -/
def uint16 (d : Draft) : Decoded UInt16 :=
  (integer 0 0xffff "u16" d).map (fun n => UInt16.ofNat n.toNat)

/-- An unsigned integer of 32 bits. -/
def uint32 (d : Draft) : Decoded UInt32 :=
  (integer 0 0xffffffff "u32" d).map (fun n => UInt32.ofNat n.toNat)

/-- A floating-point number. One that is written as an integer is taken too. -/
def float : Draft → Decoded Binary64
  | .float x => .ok x
  | .int n => .ok (Binary64.ofInt n)
  | d => .error (unexpected "f64" d)

/-- A value that may be `null`. -/
def optional {α : Type} (decode : Draft → Decoded α) : Draft → Decoded (Option α)
  | .null => .ok none
  | d => (decode d).map some

/-- Decodes items one after the other, up to the first problem. -/
def items {α : Type} (decode : Draft → Decoded α) : List Draft → Ending → Decoded (List α)
  | [], e =>
    match e.readFault? with
    | some f => .error f.toError
    | none => .ok []
  | d :: rest, e => do
    let a ← decode d
    let more ← items decode rest e
    .ok (a :: more)

/-- A list. -/
def list {α : Type} (decode : Draft → Decoded α) : Draft → Decoded (List α)
  | .arr ds e => items decode ds e
  | d => .error (unexpected "a sequence" d)

/-- Decodes the values of members one after the other, up to the first problem. -/
def members {α : Type} (decode : Draft → Decoded α) :
    List (String × Draft) → Ending → Decoded (List (String × α))
  | [], e =>
    match e.readFault? with
    | some f => .error f.toError
    | none => .ok []
  | (n, d) :: rest, e => do
    let a ← decode d
    let more ← members decode rest e
    .ok ((n, a) :: more)

/-- A map, as its members in their order. -/
def map {α : Type} (decode : Draft → Decoded α) : Draft → Decoded (List (String × α))
  | .obj ds e => members decode ds e
  | d => .error (unexpected "a map" d)

/-- A value of any kind, read from end to end. -/
def anything (d : Draft) : Decoded Json :=
  match d.toJson with
  | .ok v => .ok v
  | .error f => .error f.toError

end Decode

end RelationalCatalog
