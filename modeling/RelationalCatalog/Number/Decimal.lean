import RelationalCatalog.Number.Binary64
import RelationalCatalog.Number.Integer

/-!
# Decimal text of floating-point numbers

A number is written as decimal digits, at least one, with or without a point among them, and may
end with an exponent of ten. It is read as the floating-point number that is nearest to it. A
number that is nearest to infinity is not read.
-/

namespace RelationalCatalog

/-- A decimal number: its sign, its digits as an integer, and the power of ten they count. -/
structure Decimal where
  /-- Whether there is a minus sign. -/
  negative : Bool
  /-- The digits. -/
  significand : Nat
  /-- The exponent of ten. -/
  exponent : Int
deriving DecidableEq

/-- A sign in front of a text, and what follows it; no sign is a plus sign. -/
def splitSign : List Char → Bool × List Char
  | '-' :: rest => (true, rest)
  | '+' :: rest => (false, rest)
  | cs => (false, cs)

/-- An exponent, up to the end of the text. -/
def exponentOfEnd? (cs : List Char) : Option Int :=
  match cs with
  | [] => some 0
  | c :: rest =>
    if c = 'e' ∨ c = 'E' then
      let (negative, digits) := splitSign rest
      if digits.isEmpty ∨ !digits.all Char.isDigit then none
      else some (if negative then - (digitsValue digits : Int) else digitsValue digits)
    else none

namespace Decimal

/-- Reads a decimal number. -/
def ofChars? (cs : List Char) : Option Decimal :=
  let (negative, cs) := splitSign cs
  let whole := cs.takeWhile Char.isDigit
  let behind := cs.dropWhile Char.isDigit
  let (fraction, behind) :=
    match behind with
    | '.' :: rest => (rest.takeWhile Char.isDigit, rest.dropWhile Char.isDigit)
    | rest => ([], rest)
  if whole.isEmpty && fraction.isEmpty then none
  else (exponentOfEnd? behind).map fun e =>
    ⟨negative, digitsValue (whole ++ fraction), e - fraction.length⟩

/-- The magnitude of the nearest floating-point number. Numbers far outside the range of the
format are not computed. -/
def magnitude (d : Decimal) : Option Binary64 :=
  let order : Int := (natDigits d.significand).length + d.exponent
  if d.significand = 0 ∨ order < -400 then some (Binary64.zero false)
  else if 400 < order then none
  else
    let x := Binary64.ofQuotient (d.significand * Nat.pow 10 d.exponent.toNat)
      (Nat.pow 10 (-d.exponent).toNat)
    if x.isFinite then some x else none

/-- The nearest floating-point number, if it is finite. -/
def toBinary64? (d : Decimal) : Option Binary64 :=
  d.magnitude.map (fun x => if d.negative then x.neg else x)

end Decimal

/-- The finite floating-point number that a text spells. -/
def readBinary64? (cs : List Char) : Option Binary64 :=
  (Decimal.ofChars? cs).bind Decimal.toBinary64?

example : readBinary64? "0.1".toList = some (Binary64.ofQuotient 1 10) ∧
    readBinary64? "5.e1".toList = some (Binary64.ofNat 50) ∧
    readBinary64? "-.5".toList = some (Binary64.ofQuotient 1 2).neg ∧
    readBinary64? ".".toList = none ∧ readBinary64? "1e".toList = none ∧
    readBinary64? "1e999999999".toList = none := by decide +kernel

end RelationalCatalog
