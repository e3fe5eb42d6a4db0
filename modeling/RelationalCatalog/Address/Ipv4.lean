import RelationalCatalog.Number.Integer

/-!
# Addresses of four octets

An address of version 4 is written as its four octets in decimal, with points between them. An
octet has no leading zeros, so an address has one written form.
-/

namespace RelationalCatalog

/-- The decimal digits in front of a text, and what follows them. -/
def decimalRun (cs : List Char) : List Char × List Char :=
  (cs.takeWhile Char.isDigit, cs.dropWhile Char.isDigit)

/-- Reads a number up to `bound`; it may have leading zeros. -/
def takeNumber (bound : Nat) (cs : List Char) : Option (Nat × List Char) :=
  let (digits, rest) := decimalRun cs
  if digits.isEmpty then none
  else if bound < digitsValue digits then none
  else some (digitsValue digits, rest)

/-- Reads a character that must be there. -/
def takeMark (mark : Char) : List Char → Option (List Char)
  | [] => none
  | c :: rest => if c = mark then some rest else none

/-- An address of version 4. -/
structure Ipv4 where
  /-- The first octet. -/
  a : UInt8
  /-- The second octet. -/
  b : UInt8
  /-- The third octet. -/
  c : UInt8
  /-- The fourth octet. -/
  d : UInt8
deriving DecidableEq

/-- Whether digits begin with a zero that is not alone. -/
def hasLeadingZero (digits : List Char) : Bool :=
  digits.head? == some '0' && decide (1 < digits.length)

/-- Reads an octet. -/
def takeOctet (cs : List Char) : Option (UInt8 × List Char) :=
  if hasLeadingZero (decimalRun cs).1 then none
  else (takeNumber 255 cs).map (fun r => (UInt8.ofNat r.1, r.2))

namespace Ipv4

/-- Reads an address. -/
def take (cs : List Char) : Option (Ipv4 × List Char) := do
  let (a, cs) ← takeOctet cs
  let cs ← takeMark '.' cs
  let (b, cs) ← takeOctet cs
  let cs ← takeMark '.' cs
  let (c, cs) ← takeOctet cs
  let cs ← takeMark '.' cs
  let (d, cs) ← takeOctet cs
  return (⟨a, b, c, d⟩, cs)

/-- The characters of an address. -/
def chars (ip : Ipv4) : List Char :=
  natDigits ip.a.toNat ++ '.' :: natDigits ip.b.toNat ++ '.' :: natDigits ip.c.toNat
    ++ '.' :: natDigits ip.d.toNat

end Ipv4

example : Ipv4.take "127.0.0.1:80".toList = some (⟨127, 0, 0, 1⟩, ":80".toList) ∧
    Ipv4.take "01.2.3.4".toList = none ∧ Ipv4.take "256.0.0.1".toList = none ∧
    Ipv4.take "1.2.3".toList = none := by decide +kernel

end RelationalCatalog
