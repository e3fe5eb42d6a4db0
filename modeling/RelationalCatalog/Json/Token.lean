import RelationalCatalog.Json.Draft
import RelationalCatalog.Number.Integer
import RelationalCatalog.Text.Hexadecimal
import RelationalCatalog.Text.Utf8

/-!
# Tokens of JSON texts

Reading and skipping of the tokens that are longer than a character: words, texts in quotes and
numbers. Skipping a token takes the same characters as reading it, but does not ask what they
stand for: it accepts half a surrogate pair and a number of any size.
-/

namespace RelationalCatalog

namespace Token

/-- The white space of JSON: space, tab, line feed and carriage return. -/
def isSpace (c : Char) : Bool := c == ' ' || c == '\n' || c == '\t' || c == '\x0d'

/-- The characters from the first that is not white space. -/
def dropSpaces (cs : List Char) : List Char := cs.dropWhile isSpace

/-- Expects the characters of `word`. -/
def word : (expected : List Char) → List Char → Except Fault (List Char)
  | [], rest => .ok rest
  | _ :: _, [] => .error .cutOff
  | w :: ws, c :: rest => if c = w then word ws rest else .error .malformed

/-! ## Texts in quotes -/

/-- Four hexadecimal digits. They are asked for as four bytes, so fewer bytes than that are an
end too early, whatever they are. -/
def hexEscape : List Char → Except Fault (Nat × List Char)
  | a :: b :: c :: d :: rest =>
    match hexValue? a, hexValue? b, hexValue? c, hexValue? d with
    | some a, some b, some c, some d => .ok (((a * 16 + b) * 16 + c) * 16 + d, rest)
    | _, _, _, _ => .error .malformed
  | cs => if utf8Length cs < 4 then .error .cutOff else .error .malformed

/-- The character of an escape of one letter. -/
def shortEscape? (c : Char) : Option Char :=
  if c = '"' ∨ c = '\\' ∨ c = '/' then some c
  else if c = 'b' then some '\x08'
  else if c = 'f' then some '\x0c'
  else if c = 'n' then some '\n'
  else if c = 'r' then some '\x0d'
  else if c = 't' then some '\t'
  else none

/-- The character of an escape by number, read behind its `u`. The two halves of a surrogate
pair stand one after the other. -/
def numberedEscape (cs : List Char) : Except Fault (Char × List Char) := do
  let (n, rest) ← hexEscape cs
  if 0xdc00 ≤ n ∧ n ≤ 0xdfff then .error .malformed
  else if n < 0xd800 ∨ 0xdbff < n then .ok (Char.ofNat n, rest)
  else
    match rest with
    | [] => .error .cutOff
    | '\\' :: [] => .error .cutOff
    | '\\' :: 'u' :: rest => do
      let (low, rest) ← hexEscape rest
      if 0xdc00 ≤ low ∧ low ≤ 0xdfff then
        .ok (Char.ofNat (0x10000 + (n - 0xd800) * 0x400 + (low - 0xdc00)), rest)
      else .error .malformed
    | _ => .error .malformed

/-- Reads a text behind its opening quote; `fuel` bounds the number of its characters. -/
def readText : (fuel : Nat) → List Char → Except Fault (List Char × List Char)
  | 0, _ => .error .cutOff
  | _ + 1, [] => .error .cutOff
  | fuel + 1, c :: rest =>
    if c = '"' then .ok ([], rest)
    else if c = '\\' then
      match rest with
      | [] => .error .cutOff
      | 'u' :: rest => do
        let (c, rest) ← numberedEscape rest
        let (text, rest) ← readText fuel rest
        .ok (c :: text, rest)
      | e :: rest =>
        match shortEscape? e with
        | none => .error .malformed
        | some c => do
          let (text, rest) ← readText fuel rest
          .ok (c :: text, rest)
    else if c < ' ' then .error .malformed
    else do
      let (text, rest) ← readText fuel rest
      .ok (c :: text, rest)

/-- Skips a text behind its opening quote. -/
def skipText : (fuel : Nat) → List Char → Except Fault (List Char)
  | 0, _ => .error .cutOff
  | _ + 1, [] => .error .cutOff
  | fuel + 1, c :: rest =>
    if c = '"' then .ok rest
    else if c = '\\' then
      match rest with
      | [] => .error .cutOff
      | 'u' :: rest => do
        let (_, rest) ← hexEscape rest
        skipText fuel rest
      | e :: rest => if (shortEscape? e).isSome then skipText fuel rest else .error .malformed
    else if c < ' ' then .error .malformed
    else skipText fuel rest

/-! ## Numbers -/

/-- The significand and the decimal exponent that digits have built up. -/
structure Scaled where
  /-- The digits taken, as a number of at most 64 bits. -/
  significand : Nat
  /-- The power of ten that it counts. -/
  exponent : Int
deriving DecidableEq

/-- The significand behind one more digit, if it still has 64 bits. The bound is too large to be
counted up to, so this is only unfolded on purpose. -/
@[irreducible] def withDigit? (significand : Nat) (c : Char) : Option Nat :=
  let next := significand * 10 + digitValue c
  if next ≤ maxUInt64.natAbs then some next else none

/-- Takes the digits of an integer. From the first one that does not fit on, they only raise
the exponent. -/
def takeWhole (s : Scaled) : List Char → Scaled
  | [] => s
  | c :: rest =>
    if s.exponent = 0 then
      match withDigit? s.significand c with
      | some n => takeWhole { s with significand := n } rest
      | none => takeWhole { s with exponent := 1 } rest
    else takeWhole { s with exponent := s.exponent + 1 } rest

/-- Takes the digits behind the point, up to the first one that does not fit. -/
def takeFraction (s : Scaled) : List Char → Scaled
  | [] => s
  | c :: rest =>
    match withDigit? s.significand c with
    | some n => takeFraction ⟨n, s.exponent - 1⟩ rest
    | none => s

/-- The largest decimal exponent that is kept: one of 32 bits. -/
def exponentBound : Nat := 0x7fffffff

/-- The decimal exponent that digits spell, unless it is beyond the bound. -/
def exponentOf? (digits : List Char) : Option Nat :=
  digits.foldl
    (fun acc c => acc.bind fun n =>
      let next := n * 10 + digitValue c
      if next ≤ exponentBound then some next else none)
    (some 0)

/-- An exponent kept within 32 bits. -/
def clampExponent (e : Int) : Int := max (-(exponentBound : Int) - 1) (min e exponentBound)

/-- Divides by `10 ^ 308` a number of times, as long as something is left. -/
def divideRepeatedly (x : Binary64) : Nat → Binary64
  | 0 => x
  | n + 1 => if x.isZero then x else divideRepeatedly (x.divMagnitude (.powerOfTen 308)) n

/-- Divides by `10 ^ k`, in steps of at most `10 ^ 308`. -/
def divideByPower (x : Binary64) (k : Nat) : Binary64 :=
  let steps := (k - 1) / 308
  (divideRepeatedly x steps).divMagnitude (.powerOfTen (k - 308 * steps))

/-- The number nearest to the significand, scaled by its exponent in one multiplication or in
divisions. There is none if it is too large. -/
def magnitude? (s : Scaled) : Option Binary64 :=
  let x := Binary64.ofNat s.significand
  if s.exponent < 0 then some (divideByPower x s.exponent.natAbs)
  else if 308 < s.exponent then if x.isZero then some x else none
  else
    let y := x.mulMagnitude (.powerOfTen s.exponent.toNat)
    if y.isFinite then some y else none

/-- The parts of a written number. -/
structure Numeral where
  /-- Whether there is a minus sign. -/
  negative : Bool
  /-- The digits before the point. -/
  whole : List Char
  /-- The digits behind the point, if there is one. -/
  fraction : Option (List Char)
  /-- Whether the exponent is negative, and its digits, if there is one. -/
  exponent : Option (Bool × List Char)

/-- The floating-point number of a magnitude and a sign. -/
def signed (negative : Bool) (x : Binary64) : Binary64 := if negative then x.neg else x

/-- The number with a magnitude in exponent form. An exponent beyond 32 bits leaves a zero or
nothing. -/
def Numeral.float? (n : Numeral) : Option Binary64 :=
  let base := takeFraction (takeWhole ⟨0, 0⟩ n.whole) (n.fraction.getD [])
  match n.exponent with
  | none => (magnitude? base).map (signed n.negative)
  | some (down, digits) =>
    match exponentOf? digits with
    | none =>
      if base.significand = 0 ∨ down then some (signed n.negative (.zero false)) else none
    | some e =>
      let exponent := clampExponent (if down then base.exponent - e else base.exponent + e)
      (magnitude? { base with exponent := exponent }).map (signed n.negative)

/-- The value of a written number: an integer if it is written as one and has 64 bits, without
a sign or with one, and otherwise a floating-point number. A negative zero is one too. -/
def Numeral.value? (n : Numeral) : Option Draft :=
  if n.fraction.isNone ∧ n.exponent.isNone then
    let base := takeWhole ⟨0, 0⟩ n.whole
    if base.exponent ≠ 0 then n.float?.map Draft.float
    else if !n.negative then some (.int base.significand)
    else if 0 < base.significand ∧ base.significand ≤ minInt64.natAbs then
      some (.int (-(base.significand : Int)))
    else n.float?.map Draft.float
  else n.float?.map Draft.float

/-- The leading digits and the rest. -/
def digits (cs : List Char) : List Char × List Char :=
  (cs.takeWhile Char.isDigit, cs.dropWhile Char.isDigit)

/-- The digits before the point: a zero alone, or digits that begin with another one. The end
of the text is reported as `atEnd`. -/
def wholeDigits (atEnd : Fault) : List Char → Except Fault (List Char × List Char)
  | [] => .error atEnd
  | c :: rest =>
    if c = '0' then
      match rest with
      | d :: _ => if d.isDigit then .error .malformed else .ok (['0'], rest)
      | [] => .ok (['0'], rest)
    else if c.isDigit then .ok (digits (c :: rest))
    else .error .malformed

/-- At least one digit. -/
def someDigits (atEnd : Fault) (cs : List Char) : Except Fault (List Char × List Char) :=
  match digits cs with
  | ([], []) => .error atEnd
  | ([], _ :: _) => .error .malformed
  | (ds, rest) => .ok (ds, rest)

/-- The point and the digits behind it, if there is a point. -/
def fractionPart (atEnd : Fault) : List Char → Except Fault (Option (List Char) × List Char)
  | '.' :: rest => do
    let (ds, rest) ← someDigits atEnd rest
    .ok (some ds, rest)
  | cs => .ok (none, cs)

/-- The exponent, if there is one. -/
def exponentPart (atEnd : Fault) : List Char → Except Fault (Option (Bool × List Char) × List Char)
  | c :: rest =>
    if c = 'e' ∨ c = 'E' then do
      let (down, rest) := match rest with
        | '-' :: rest => (true, rest)
        | '+' :: rest => (false, rest)
        | rest => (false, rest)
      let (ds, rest) ← someDigits atEnd rest
      .ok (some (down, ds), rest)
    else .ok (none, c :: rest)
  | [] => .ok (none, [])

/-- The parts of a number. -/
def numeral (atEnd : Fault) (cs : List Char) : Except Fault (Numeral × List Char) := do
  let (negative, cs) := match cs with
    | '-' :: rest => (true, rest)
    | cs => (false, cs)
  let (whole, cs) ← wholeDigits atEnd cs
  let (fraction, cs) ← fractionPart atEnd cs
  let (exponent, cs) ← exponentPart atEnd cs
  .ok (⟨negative, whole, fraction, exponent⟩, cs)

end Token

end RelationalCatalog
