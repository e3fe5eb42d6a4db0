/-!
# Decimal text of integers

An integer is written with the fewest digits and a minus sign if it is negative. A text is read
as an integer if it is a run of ASCII digits, at least one, behind an optional sign. Reading
goes from left to right in a type of fixed width, and the first character that is no digit, or
the first digit with which the number leaves the type, is the fault that is reported.
-/

namespace RelationalCatalog

/-- The digits of a natural number. -/
def natDigits (n : Nat) : List Char := Nat.toDigits 10 n

/-- The written form of an integer. -/
def intDigits (n : Int) : List Char :=
  if n < 0 then '-' :: natDigits n.natAbs else natDigits n.natAbs

/-- The text of an integer. -/
def intText (n : Int) : String := String.ofList (intDigits n)

/-- The value of an ASCII digit. -/
def digitValue (c : Char) : Nat := c.toNat - '0'.toNat

/-- The number that decimal digits spell. -/
def digitsValue (digits : List Char) : Nat := Nat.ofDigitChars 10 digits 0

/-- What keeps a text from being an integer of a type of fixed width. -/
inductive IntegerFault
  /-- There is no character. -/
  | empty
  /-- A character is no digit, or a sign stands alone. -/
  | invalidDigit
  /-- The number is above the largest of the type. -/
  | tooLarge
  /-- The number is below the smallest of the type. -/
  | tooSmall
deriving DecidableEq

/-- The wording of a fault. -/
def IntegerFault.message : IntegerFault → String
  | .empty => "cannot parse integer from empty string"
  | .invalidDigit => "invalid digit found in string"
  | .tooLarge => "number too large to fit in target type"
  | .tooSmall => "number too small to fit in target type"

/-- Reads digits behind `acc`, as long as the number stays within `bound`. -/
def readMagnitude (bound : Nat) (beyond : IntegerFault) :
    (acc : Nat) → List Char → Except IntegerFault Nat
  | acc, [] => .ok acc
  | acc, c :: rest =>
    if c.isDigit then
      let next := acc * 10 + digitValue c
      if next ≤ bound then readMagnitude bound beyond next rest else .error beyond
    else .error .invalidDigit

/-- Reads an unsigned integer up to `bound`; a plus sign may stand in front. -/
def readUnsigned (bound : Nat) (s : String) : Except IntegerFault Nat :=
  match s.toList with
  | [] => .error .empty
  | ['+'] => .error .invalidDigit
  | '+' :: digits => readMagnitude bound .tooLarge 0 digits
  | digits => readMagnitude bound .tooLarge 0 digits

/-- Reads a signed integer from `-below` to `above`; either sign may stand in front. -/
def readSigned (below above : Nat) (s : String) : Except IntegerFault Int :=
  match s.toList with
  | [] => .error .empty
  | ['+'] => .error .invalidDigit
  | ['-'] => .error .invalidDigit
  | '+' :: digits => (readMagnitude above .tooLarge 0 digits).map Int.ofNat
  | '-' :: digits => (readMagnitude below .tooSmall 0 digits).map (fun n => - (n : Int))
  | digits => (readMagnitude above .tooLarge 0 digits).map Int.ofNat

/-- The least integer of 64 bits. -/
def minInt64 : Int := -0x8000000000000000

/-- The greatest integer of 64 bits. -/
def maxInt64 : Int := 0x7fffffffffffffff

/-- The greatest unsigned integer of 64 bits. -/
def maxUInt64 : Int := 0xffffffffffffffff

/-- Reads a signed integer of 64 bits. -/
def readInt64 (s : String) : Except IntegerFault Int64 :=
  (readSigned minInt64.natAbs maxInt64.natAbs s).map Int64.ofInt

/-- Reads an unsigned integer of 64 bits. -/
def readUInt64 (s : String) : Except IntegerFault UInt64 :=
  (readUnsigned maxUInt64.natAbs s).map UInt64.ofNat

/-- Reading the digits of a number gives the number back. -/
theorem digitsValue_natDigits (n : Nat) : digitsValue (natDigits n) = n :=
  Nat.ofDigitChars_ten_toDigits

end RelationalCatalog
