import RelationalCatalog.Entity.Basic
import RelationalCatalog.Instant.Reading
import RelationalCatalog.Text.LetterCase

/-!
# Coercion of properties

An attribute of a bean has a kind, and the property that it is taken from must represent a value
of that kind. Coercion is strict: numbers are taken from integers and from decimal text, never
from floating-point numbers; truth values from the words for them; dates from milliseconds and
from timestamps; symbols from the listed ones, whatever the case of their letters. A property
that is null stands for no value.
-/

namespace RelationalCatalog

/-- The kinds of attributes. -/
inductive AttributeKind
  | text
  | int
  | bool
  | date
  /-- One of the listed symbols. -/
  | symbol (symbols : List String)
deriving DecidableEq

/-- The name of a kind. -/
def AttributeKind.label : AttributeKind → String
  | .text => "text"
  | .int => "int"
  | .bool => "bool"
  | .date => "date"
  | .symbol _ => "enum"

/-- The value of an attribute. -/
inductive AttributeValue
  | text (s : String)
  | int (n : Int64)
  | bool (b : Bool)
  | date (t : Instant)
  | symbol (s : String)
deriving DecidableEq

namespace AttributeValue

/-- The text that a value is. -/
def text? : AttributeValue → Option String
  | .text s => some s
  | _ => none

/-- The integer that a value is. -/
def int? : AttributeValue → Option Int64
  | .int n => some n
  | _ => none

/-- The truth value that a value is. -/
def bool? : AttributeValue → Option Bool
  | .bool b => some b
  | _ => none

/-- The date that a value is. -/
def date? : AttributeValue → Option Instant
  | .date t => some t
  | _ => none

/-- The symbol that a value is. -/
def symbol? : AttributeValue → Option String
  | .symbol s => some s
  | _ => none

end AttributeValue

/-- Why a property does not represent a value of a kind. -/
inductive CoercionFault
  /-- No property of this kind does. -/
  | wrongKind (expected found : String)
  /-- The text is no integer of 64 bits. -/
  | notInteger (text : String)
  /-- The text is no word for a truth value. -/
  | notBoolean (text : String)
  /-- There is no date so many milliseconds away. -/
  | dateOutOfRange (millis : Int64)
  /-- The text is no timestamp. -/
  | notDate (text : String) (fault : InstantFault)
  /-- The symbol is not listed. -/
  | notListed (candidate : String) (symbols : List String)
deriving DecidableEq

/-- The wording of a fault. -/
def CoercionFault.message : CoercionFault → String
  | .wrongKind expected found => s!"expected {expected} but found {found}"
  | .notInteger text => s!"'{text}' is not an integer"
  | .notBoolean text => s!"'{text}' is not a boolean"
  | .dateOutOfRange millis => s!"{intText millis.toInt} is out of the supported date range"
  | .notDate text fault => s!"'{text}' is not an RFC 3339 date: {fault.message}"
  | .notListed candidate symbols =>
    s!"'{candidate}' is not one of " ++ ", ".intercalate symbols

/-- The integer that a text spells. -/
def coerceInt (s : String) : Except CoercionFault AttributeValue :=
  match readInt64 s with
  | .ok n => .ok (.int n)
  | .error _ => .error (.notInteger s)

/-- The truth value that a text names. -/
def coerceBool (s : String) : Except CoercionFault AttributeValue :=
  if equalUpToCase s "true" then .ok (.bool true)
  else if equalUpToCase s "false" then .ok (.bool false)
  else .error (.notBoolean s)

/-- The date that is so many milliseconds away. -/
def coerceMillis (millis : Int64) : Except CoercionFault AttributeValue :=
  match Instant.ofMillis? millis.toInt with
  | some t => .ok (.date t)
  | none => .error (.dateOutOfRange millis)

/-- The date that a timestamp denotes. -/
def coerceDate (s : String) : Except CoercionFault AttributeValue :=
  match Instant.strict s with
  | .ok t => .ok (.date t)
  | .error fault => .error (.notDate s fault)

/-- The first listed symbol that a text names. -/
def coerceSymbol (symbols : List String) (s : String) : Except CoercionFault AttributeValue :=
  match symbols.find? (fun symbol => equalUpToCase symbol s) with
  | some symbol => .ok (.symbol symbol)
  | none => .error (.notListed s symbols)

/-- The value of a kind that a property represents; a null one represents none. -/
def coerce (value : Property) (kind : AttributeKind) :
    Except CoercionFault (Option AttributeValue) :=
  match kind, value with
  | _, .null => .ok none
  | .text, .text s => .ok (some (.text s))
  | .text, .symbol s => .ok (some (.text s.symbolicName))
  | .int, .int n => .ok (some (.int n))
  | .int, .text s => (coerceInt s).map some
  | .bool, .bool b => .ok (some (.bool b))
  | .bool, .text s => (coerceBool s).map some
  | .date, .int millis => (coerceMillis millis).map some
  | .date, .text s => (coerceDate s).map some
  | .symbol symbols, .symbol s => (coerceSymbol symbols s.symbolicName).map some
  | .symbol symbols, .text s => (coerceSymbol symbols s).map some
  | kind, value => .error (.wrongKind kind.label value.kindName)

end RelationalCatalog
