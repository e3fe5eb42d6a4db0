import RelationalCatalog.Number.Binary64
import RelationalCatalog.Number.Integer

/-!
# The shortest decimal text of a floating-point number

A finite number is written with the fewest decimal digits that read back as the same number,
and of the candidates with that many digits with the one nearest to it. The reals that read
back as a number are those between the midpoints to its neighbours, the midpoints included if
its significand is even.

For each count of digits it is enough to test the two neighbours of the number on the grid of
decimals with that many digits: if a point of the grid reads back, so does one of these two.
Seventeen digits always do.
-/

namespace RelationalCatalog

namespace Binary64

/-- Decimal digits and the power of ten of the first one. -/
structure Digits where
  /-- The digits read as one natural number. -/
  digits : Nat
  /-- The place of the first digit: `0` for units, `-1` for tenths. -/
  place : Int
deriving DecidableEq

/-- The greatest `e` with `10 ^ e ≤ num / den`, for a positive quotient: `guess` is at most two
above or below it. -/
def decimalOrder (num den : Nat) (guess : Int) : Int :=
  let atLeast (e : Int) : Bool := decide (den * Nat.pow 10 e.toNat ≤ num * Nat.pow 10 (-e).toNat)
  if atLeast (guess + 2) then guess + 2
  else if atLeast (guess + 1) then guess + 1
  else if atLeast guess then guess
  else if atLeast (guess - 1) then guess - 1
  else guess - 2

/-- The reals that are nearest to a magnitude, as quotients with one denominator. -/
structure Interval where
  /-- The midpoint to the neighbour below. -/
  low : Nat
  /-- The magnitude itself. -/
  value : Nat
  /-- The midpoint to the neighbour above. -/
  high : Nat
  /-- The denominator. -/
  den : Nat
  /-- Whether the midpoints belong to the interval. -/
  closed : Bool

/-- The interval of a positive magnitude. Below a power of two the neighbours lie twice as dense
as above it. -/
def interval (d : Dyadic) : Interval :=
  let up := Nat.pow 2 d.exponent.toNat
  let den := 4 * Nat.pow 2 (-d.exponent).toNat
  let below := if d.significand = normalBit ∧ -1074 < d.exponent then 1 else 2
  { low := (4 * d.significand - below) * up
    value := 4 * d.significand * up
    high := (4 * d.significand + 2) * up
    den := den
    closed := d.significand % 2 = 0 }

/-- Whether `n * 10 ^ unit` lies in the interval. -/
def Interval.holds (i : Interval) (n : Nat) (unit : Int) : Bool :=
  let x := n * Nat.pow 10 unit.toNat * i.den
  let scale := Nat.pow 10 (-unit).toNat
  if i.closed then decide (i.low * scale ≤ x ∧ x ≤ i.high * scale)
  else decide (i.low * scale < x ∧ x < i.high * scale)

/-- The nearest decimal in the interval among multiples of `10 ^ unit`, if there is one. Of two
that are equally near the even one is taken. -/
def Interval.nearest? (i : Interval) (unit : Int) : Option Nat :=
  let num := i.value * Nat.pow 10 (-unit).toNat
  let den := i.den * Nat.pow 10 unit.toNat
  let n := num / den
  let twice := 2 * (num % den)
  let (first, second) :=
    if twice < den ∨ (twice = den ∧ n % 2 = 0) then (n, n + 1) else (n + 1, n)
  if i.holds first unit then some first
  else if i.holds second unit then some second
  else none

/-- Tries the counts of digits from `17 - left` upwards. -/
def shortestFrom (i : Interval) (order : Int) : Nat → Digits
  | 0 =>
    let unit := order - 16
    ⟨(i.value * Nat.pow 10 (-unit).toNat) / (i.den * Nat.pow 10 unit.toNat), order⟩
  | left + 1 =>
    let unit := order - (16 - left : Nat)
    match i.nearest? unit with
    | some n => ⟨n, if Nat.pow 10 (17 - left) ≤ n then order + 1 else order⟩
    | none => shortestFrom i order left

/-- The shortest digits of a positive magnitude. -/
def shortest (d : Dyadic) : Digits :=
  let i := interval d
  let guess : Int := ((d.significand.log2 : Int) + d.exponent) * 30103 / 100000
  shortestFrom i (decimalOrder i.value i.den guess) 17

end Binary64

/-- The digits of a natural number without the zeros at the end. -/
def significantDigits (n : Nat) : List Char :=
  let ds := ((natDigits n).reverse.dropWhile (· == '0')).reverse
  if ds.isEmpty then ['0'] else ds

/-- How a floating-point number is written: which places of the first digit are written out in
full, and otherwise whether a positive exponent has a sign. -/
structure FloatFormat where
  /-- The lowest place of the first digit that is written out. -/
  lowest : Int
  /-- The highest place of the first digit that is written out. -/
  highest : Int
  /-- Whether a positive exponent is written with a plus sign. -/
  signedExponent : Bool

/-- Digits written out in full, with at least one digit on either side of the point. -/
def positional (digits : List Char) (place : Int) : List Char :=
  if place < 0 then
    '0' :: '.' :: (List.replicate (-place - 1).toNat '0' ++ digits)
  else
    let whole := place.toNat + 1
    let padded := digits ++ List.replicate (whole + 1 - digits.length) '0'
    padded.take whole ++ '.' :: padded.drop whole

/-- Digits with one digit before the point and an exponent behind. -/
def scientific (digits : List Char) (place : Int) (signed : Bool) : List Char :=
  let sign := if place < 0 then ['-'] else if signed then ['+'] else []
  let body := match digits with
    | [] => []
    | [d] => [d]
    | d :: rest => d :: '.' :: rest
  body ++ 'e' :: (sign ++ natDigits place.natAbs)

/-- The written form of a finite number. -/
def FloatFormat.write (f : FloatFormat) (x : Binary64) : List Char :=
  let sign := if x.isNegative then ['-'] else []
  if x.isZero then sign ++ ['0', '.', '0']
  else
    let d := Binary64.shortest x.magnitude
    let digits := significantDigits d.digits
    if f.lowest ≤ d.place ∧ d.place ≤ f.highest then sign ++ positional digits d.place
    else sign ++ scientific digits d.place f.signedExponent

/-- Numbers are written out from hundred-thousandths up to `10 ^ 15`, with a plus sign before
the exponents of larger ones. -/
def FloatFormat.wire : FloatFormat := ⟨-5, 15, true⟩

end RelationalCatalog
