import RelationalCatalog.Instant.Calendar
import RelationalCatalog.Number.Integer

/-!
# Instants of time

An instant is counted in seconds since the beginning of the year 1970 in universal time, with
the nanoseconds within its second. A leap second is kept: it prolongs the last second of a
minute, so its nanoseconds go on from a thousand million. Instants lie in the years -262143 to
262142.
-/

namespace RelationalCatalog

/-- The first second of the range. -/
def minSeconds : Int := -8334601228800

/-- The last second of the range. -/
def maxSeconds : Int := 8210266876799

/-- An instant of time. -/
structure Instant where
  /-- The seconds since 1970-01-01T00:00:00Z. -/
  seconds : Int
  /-- The nanoseconds within the second; a leap second follows those of a second. -/
  nanos : Nat
  /-- The lower end of the range. -/
  lower : minSeconds ≤ seconds
  /-- The upper end of the range. -/
  upper : seconds ≤ maxSeconds
  /-- A second and a leap second have no more. -/
  nanos_lt : nanos < 2000000000
  /-- Leap seconds are at the end of a minute. -/
  leap : 1000000000 ≤ nanos → seconds % 60 = 59
deriving DecidableEq

namespace Instant

/-- The instant of a second and nanoseconds, if there is one. -/
def of? (seconds : Int) (nanos : Nat) : Option Instant :=
  if h : minSeconds ≤ seconds ∧ seconds ≤ maxSeconds ∧ nanos < 2000000000 ∧
      (1000000000 ≤ nanos → seconds % 60 = 59) then
    some ⟨seconds, nanos, h.1, h.2.1, h.2.2.1, h.2.2.2⟩
  else none

/-- The instant of a number of milliseconds since the beginning of 1970. -/
def ofMillis? (millis : Int) : Option Instant :=
  of? (millis / 1000) ((millis % 1000).toNat * 1000000)

/-- The milliseconds since the beginning of 1970; those of a leap second are the ones of the
second behind it. -/
def millis (t : Instant) : Int := t.seconds * 1000 + (t.nanos / 1000000 : Nat)

/-- A number with at least `width` digits. -/
def padded (width n : Nat) : List Char :=
  let ds := natDigits n
  List.replicate (width - ds.length) '0' ++ ds

/-- A year: four digits from 0 to 9999, and otherwise a sign and at least four digits. -/
def yearChars (year : Int) : List Char :=
  if 0 ≤ year ∧ year ≤ 9999 then padded 4 year.natAbs
  else (if year < 0 then '-' else '+') :: padded 4 year.natAbs

/-- A fraction of a second: none, or three, six or nine digits, the fewest that are exact. -/
def fractionChars (nanos : Nat) : List Char :=
  if nanos = 0 then []
  else if nanos % 1000000 = 0 then '.' :: padded 3 (nanos / 1000000)
  else if nanos % 1000 = 0 then '.' :: padded 6 (nanos / 1000)
  else '.' :: padded 9 nanos

/-- The characters of an instant's written form, in universal time. -/
def chars (t : Instant) : List Char :=
  let date := Date.ofDayNumber (t.seconds / 86400)
  let second := (t.seconds % 86400).toNat
  let leap := if 1000000000 ≤ t.nanos then 1 else 0
  yearChars date.year ++ '-' :: padded 2 date.month ++ '-' :: padded 2 date.day
    ++ 'T' :: padded 2 (second / 3600) ++ ':' :: padded 2 (second / 60 % 60)
    ++ ':' :: padded 2 (second % 60 + leap) ++ fractionChars (t.nanos % 1000000000) ++ ['Z']

/-- The written form of an instant. -/
def render (t : Instant) : String := String.ofList t.chars

end Instant

end RelationalCatalog
