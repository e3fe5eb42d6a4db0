/-!
# Floating-point numbers of 64 bits

A number is its 64 bits, so two numbers are equal exactly if they are written alike: a positive
and a negative zero differ. Its magnitude is a natural number times a power of two. Rounding
takes an exact quotient of naturals to the nearest number, a half to the even one, and every
operation here is the exact result, rounded.
-/

namespace RelationalCatalog

/-- A floating-point number in the binary64 format, as its bits. -/
structure Binary64 where
  /-- One sign bit, eleven exponent bits, fifty-two fraction bits. -/
  bits : UInt64
deriving DecidableEq

/-- A natural number times a power of two. -/
structure Dyadic where
  /-- The factor. -/
  significand : Nat
  /-- The exponent of two. -/
  exponent : Int
deriving DecidableEq

/-- The quotient of two naturals to the nearest integer, a half to the even one. -/
def roundQuotient (num den : Nat) : Nat :=
  let q := num / den
  let twice := 2 * (num % den)
  if twice > den then q + 1
  else if twice = den then q + q % 2
  else q

namespace Binary64

/-- The sign bit, the highest of the sixty-four. -/
def signBit : Nat := 0x8000000000000000

/-- The least significand of the numbers with the full fifty-three binary digits. -/
def normalBit : Nat := 0x10000000000000

/-- Whether the sign bit is set. -/
def isNegative (x : Binary64) : Bool := decide (signBit ≤ x.bits.toNat)

/-- The bits without the sign bit. -/
def magnitudeBits (x : Binary64) : Nat := x.bits.toNat % signBit

/-- Whether the number is a zero of either sign. -/
def isZero (x : Binary64) : Bool := x.magnitudeBits == 0

/-- Whether the number is no infinity and not the indefinite one. -/
def isFinite (x : Binary64) : Bool := decide (x.magnitudeBits < 2047 * normalBit)

/-- The magnitude of a finite number. -/
def magnitude (x : Binary64) : Dyadic :=
  let exponent : Nat := x.magnitudeBits / normalBit
  let fraction : Nat := x.magnitudeBits % normalBit
  if exponent = 0 then ⟨fraction, -1074⟩ else ⟨fraction + normalBit, (exponent : Int) - 1075⟩

/-- The number with the sign and the magnitude bits. -/
def ofParts (negative : Bool) (magnitudeBits : Nat) : Binary64 :=
  ⟨UInt64.ofNat (magnitudeBits + if negative then signBit else 0)⟩

/-- The zero of a sign. -/
def zero (negative : Bool) : Binary64 := ofParts negative 0

/-- The negated number. -/
def neg (x : Binary64) : Binary64 := ofParts (!x.isNegative) x.magnitudeBits

/-- The greatest `e` with `2 ^ e ≤ num / den`, for a positive quotient. -/
def binaryOrder (num den : Nat) : Int :=
  let e : Int := (num.log2 : Int) - den.log2
  if num * Nat.pow 2 (-e).toNat < den * Nat.pow 2 e.toNat then e - 1 else e

/-- The number nearest to `num / den`. One that is too large gives infinity. -/
def ofQuotient (num den : Nat) : Binary64 :=
  if num = 0 then zero false
  else
    let q : Int := max (-1074) (binaryOrder num den - 52)
    let m := roundQuotient (num * Nat.pow 2 (-q).toNat) (den * Nat.pow 2 q.toNat)
    -- A significand that rounds up to `2 ^ 53` carries into the exponent by itself.
    let bits := if q = -1074 then m else (q + 1074).toNat * normalBit + m
    ofParts false (min bits (2047 * normalBit))

/-- The number nearest to a natural number. -/
def ofNat (n : Nat) : Binary64 := ofQuotient n 1

/-- The number nearest to an integer. -/
def ofInt (n : Int) : Binary64 := if n < 0 then (ofNat n.natAbs).neg else ofNat n.natAbs

/-- The rounded product of two magnitudes. -/
def mulMagnitude (x y : Binary64) : Binary64 :=
  let a := x.magnitude
  let b := y.magnitude
  let e := a.exponent + b.exponent
  ofQuotient (a.significand * b.significand * Nat.pow 2 e.toNat) (Nat.pow 2 (-e).toNat)

/-- The rounded quotient of two magnitudes, the second one positive. -/
def divMagnitude (x y : Binary64) : Binary64 :=
  let a := x.magnitude
  let b := y.magnitude
  let e := a.exponent - b.exponent
  ofQuotient (a.significand * Nat.pow 2 e.toNat) (b.significand * Nat.pow 2 (-e).toNat)

/-- The number nearest to a power of ten. -/
def powerOfTen (n : Nat) : Binary64 := ofNat (Nat.pow 10 n)

end Binary64

example : (Binary64.ofNat 1).bits = 0x3ff0000000000000 ∧
    (Binary64.ofQuotient 1 10).bits = 0x3fb999999999999a ∧
    (Binary64.ofQuotient 1 (Nat.pow 2 1075)).bits = 0 ∧
    (Binary64.ofQuotient 3 (Nat.pow 2 1075)).bits = 2 := by decide +kernel

end RelationalCatalog
