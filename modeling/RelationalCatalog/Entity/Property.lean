import RelationalCatalog.Json.Record
import RelationalCatalog.Json.Printer

/-!
# Properties of entities

A property is a loosely typed value. In JSON its kind is not named but guessed: the forms are
tried one after the other, and the first that takes the value counts. So an object or a pair of an
ordinal and a symbolic name is a symbol, and a number is an integer if it is written as one and has
64 bits. A value that no form takes is refused as a whole.
-/

namespace RelationalCatalog

/-- A symbol as it is stored: its number and its name. -/
structure StoredSymbol where
  /-- The number of the symbol. -/
  ordinal : UInt32
  /-- The name of the symbol. -/
  symbolicName : String
deriving DecidableEq

/-- The value of a property. -/
inductive Property
  | null
  | bool (b : Bool)
  | int (n : Int64)
  | float (x : Binary64)
  | text (s : String)
  | symbol (s : StoredSymbol)
deriving DecidableEq

namespace StoredSymbol

/-- The fields of a symbol. -/
inductive Field
  | ordinal
  | symbolicName
deriving DecidableEq

/-- The form of a symbol in JSON. -/
def layout : Layout where
  title := "EnumValue"
  Field := Field
  fields := [.ordinal, .symbolicName]
  label
    | .ordinal => "ordinal"
    | .symbolicName => "symbolicName"
  Value
    | .ordinal => UInt32
    | .symbolicName => String
  decode
    | .ordinal => Decode.uint32
    | .symbolicName => Decode.text
  absence
    | .ordinal => .refused
    | .symbolicName => .refused
  unlisted := .skipped
  positional := true

/-- Decodes a symbol. -/
def decode (d : Draft) : Decoded StoredSymbol := do
  let r ← layout.read d
  return { ordinal := ← r.take Field.ordinal, symbolicName := ← r.take Field.symbolicName }

/-- A symbol as JSON. -/
def toJson (s : StoredSymbol) : Json :=
  .obj [("ordinal", .int s.ordinal.toNat), ("symbolicName", .str s.symbolicName)]

end StoredSymbol

namespace Property

/-- The name of a property's kind. -/
def kindName : Property → String
  | .null => "null"
  | .bool _ => "bool"
  | .int _ => "int"
  | .float _ => "float"
  | .text _ => "text"
  | .symbol _ => "enum"

/-- Whether a property is null. -/
def isNull : Property → Bool
  | .null => true
  | _ => false

/-- The forms that a property can have in JSON, in the order in which they are tried. -/
def forms : List (Draft → Decoded Property) := [
  fun d => (Decode.unit d).map fun _ => .null,
  fun d => (Decode.boolean d).map .bool,
  fun d => (Decode.int64 d).map .int,
  fun d => (Decode.float d).map .float,
  fun d => (Decode.text d).map .text,
  fun d => (StoredSymbol.decode d).map .symbol]

/-- The property that a JSON value stands for, in the first form that takes the value. -/
def ofJson? (v : Json) : Option Property :=
  forms.findSome? fun decode => (decode v.draft).toOption

/-- Decodes a property. The value is read from end to end before its kind is looked for. -/
def decode (d : Draft) : Decoded Property := do
  let v ← Decode.anything d
  match ofJson? v with
  | some p => .ok p
  | none => .error (.mismatch (.noVariant "PropertyValue"))

/-- A property as JSON. -/
def toJson : Property → Json
  | .null => .null
  | .bool b => .bool b
  | .int n => .int n.toInt
  | .float x => .float x
  | .text s => .str s
  | .symbol s => s.toJson

end Property

end RelationalCatalog
