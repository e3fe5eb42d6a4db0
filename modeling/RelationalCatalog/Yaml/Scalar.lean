import RelationalCatalog.Json.Basic
import RelationalCatalog.Number.Decimal
import RelationalCatalog.Text.Hexadecimal

/-!
# Plain scalars

A scalar without quotes stands for nothing, a truth value or a number if it is spelled like one,
and for its own text otherwise. Integers may be written in hexadecimal, octal and binary. Digits
behind a leading zero are no number. Integers of more than 64 bits are refused, unless they have
even more than 128: these are floating-point numbers.
-/

namespace RelationalCatalog

namespace Yaml

/-- The spellings of nothing. -/
def nullWords : List (List Char) := ["", "~", "null", "Null", "NULL"].map String.toList

/-- The spellings of the truth values. -/
def booleanWord? (cs : List Char) : Option Bool :=
  if ["true", "True", "TRUE"].contains (String.ofList cs) then some true
  else if ["false", "False", "FALSE"].contains (String.ofList cs) then some false
  else none

/-- The spellings of the numbers that are not finite, all without a JSON form. -/
def nonFiniteWords : List (List Char) :=
  [".inf", ".Inf", ".INF", "+.inf", "+.Inf", "+.INF", "-.inf", "-.Inf", "-.INF", ".nan", ".NaN",
    ".NAN"].map String.toList

/-- The number that digits of a base spell, if all of them are digits of that base. -/
def digitsInBase? (base : Nat) (digits : List Char) : Option Nat :=
  if digits.isEmpty then none
  else digits.foldlM (fun n c =>
    match hexValue? c with
    | some d => if d < base then some (n * base + d) else none
    | none => none) 0

/-- Whether a text has a leading zero and only digits behind it, at least one. -/
def isZeroPadded (cs : List Char) : Bool :=
  cs.head? == some '0' && decide (1 < cs.length) && cs.all Char.isDigit

/-- A number without a sign, in one of the bases; without a mark of the base it is decimal. -/
def natural? (cs : List Char) : Option Nat :=
  match cs with
  | '0' :: 'x' :: digits => digitsInBase? 16 digits
  | '0' :: 'o' :: digits => digitsInBase? 8 digits
  | '0' :: 'b' :: digits => digitsInBase? 2 digits
  | _ => if isZeroPadded cs then none else digitsInBase? 10 cs

/-- The integer that a scalar spells. -/
def integer? (cs : List Char) : Option Int :=
  let (negative, magnitude) := splitSign cs
  (natural? magnitude).map (fun n => if negative then - (n : Int) else n)

/-- The floating-point number that a scalar spells. -/
def float? (cs : List Char) : Option Binary64 :=
  if isZeroPadded (splitSign cs).2 then none else readBinary64? cs

/-- The value of a scalar that is no integer of up to 128 bits. -/
def resolveRest (cs : List Char) : Json :=
  if nonFiniteWords.contains cs then .null
  else
    match float? cs with
    | some x => .float x
    | none => .str (String.ofList cs)

/-- The least integer of 128 bits. -/
def minInt128 : Int := -0x80000000000000000000000000000000

/-- The greatest unsigned integer of 128 bits. -/
def maxUInt128 : Int := 0xffffffffffffffffffffffffffffffff

/-- The value of a plain scalar, unless it is refused. -/
def resolve (cs : List Char) : Option Json :=
  if nullWords.contains cs then some .null
  else
    match booleanWord? cs, integer? cs with
    | some b, _ => some (.bool b)
    | none, some n =>
      if minInt64 ≤ n ∧ n ≤ maxUInt64 then some (.int n)
      else if minInt128 ≤ n ∧ n ≤ maxUInt128 then none
      else some (resolveRest cs)
    | none, none => some (resolveRest cs)

end Yaml

end RelationalCatalog
