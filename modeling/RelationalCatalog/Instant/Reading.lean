import RelationalCatalog.Instant.Basic
import RelationalCatalog.Text.Blank
import RelationalCatalog.Text.Utf8

/-!
# Reading instants

An instant is read from a date, a time of day and an offset from universal time. There are two
readers. `strict` takes exactly the timestamps of RFC 3339. `relaxed` also takes numbers with
fewer digits, years of any length behind a sign, blanks between the parts, and more forms of the
offset. Both go from left to right and report the first problem.
-/

namespace RelationalCatalog

/-- Why a text is not read as an instant. -/
inductive InstantFault
  /-- The text ends too early. -/
  | tooShort
  /-- A character cannot stand where it stands. -/
  | invalid
  /-- A number is out of its range, or there is no such date or time. -/
  | outOfRange
  /-- The offset leads out of the range of instants. -/
  | impossible
  /-- Something follows. -/
  | tooLong
deriving DecidableEq

/-- The wording of a fault. -/
def InstantFault.message : InstantFault → String
  | .tooShort => "premature end of input"
  | .invalid => "input contains invalid characters"
  | .outOfRange => "input is out of range"
  | .impossible => "no possible date and time matching input"
  | .tooLong => "trailing input"

namespace Instant

/-- A date and time of day as it was written. -/
structure Local where
  /-- The date. -/
  date : Date
  /-- The hour. -/
  hour : Nat
  /-- The minute. -/
  minute : Nat
  /-- The second; 60 is a leap second. -/
  second : Nat
  /-- The nanoseconds. -/
  nanos : Nat

/-- Whether there is such a time of day. -/
def Local.timeExists (t : Local) : Bool :=
  decide (t.hour ≤ 23 ∧ t.minute ≤ 59 ∧ t.second ≤ 60)

/-- The instant of a date and time with an offset in minutes, if there is one. -/
def Local.instant? (t : Local) (offset : Int) : Option Instant :=
  let leap := if t.second = 60 then 1 else 0
  let seconds : Int := t.date.dayNumber * 86400 + t.hour * 3600 + t.minute * 60
    + (t.second - leap : Nat) - offset * 60
  Instant.of? seconds (t.nanos + leap * 1000000000)

/-- The instant of a date and time that exist, at an offset that must be below a day. -/
def Local.at (t : Local) (offset : Int) : Except InstantFault Instant :=
  if offset.natAbs < 1440 then
    match t.instant? offset with
    | some instant => .ok instant
    | none => .error .impossible
  else .error .outOfRange

/-- Expects a character. -/
def expect (c : Char) : List Char → Except InstantFault (List Char)
  | [] => .error .tooShort
  | d :: rest => if d = c then .ok rest else .error .invalid

/-- Reads `count` digits behind `acc`. -/
def fixedDigits : (count acc : Nat) → List Char → Except InstantFault (Nat × List Char)
  | 0, acc, cs => .ok (acc, cs)
  | _ + 1, _, [] => .error .tooShort
  | count + 1, acc, c :: rest =>
    if c.isDigit then fixedDigits count (acc * 10 + digitValue c) rest else .error .invalid

/-- The character between date and time. -/
def timeMark : List Char → Except InstantFault (List Char)
  | [] => .error .tooShort
  | c :: rest => if c = 't' ∨ c = 'T' ∨ c = ' ' then .ok rest else .error .invalid

/-- The nanoseconds that the digits of a fraction spell; those behind the ninth are dropped. -/
def nanosOf (digits : List Char) : Nat :=
  let kept := digits.take 9
  digitsValue kept * Nat.pow 10 (9 - kept.length)

/-- The fraction of the second, if there is one. -/
def fraction : List Char → Except InstantFault (Nat × List Char)
  | '.' :: rest =>
    match rest with
    | [] => .error .tooShort
    | c :: _ =>
      if c.isDigit then
        .ok (nanosOf (rest.takeWhile Char.isDigit), rest.dropWhile Char.isDigit)
      else .error .invalid
  | cs => .ok (0, cs)

/-- Two characters that should be digits. They are asked for as two bytes. -/
def twoDigits (cs : List Char) : Except InstantFault (Nat × List Char) :=
  if utf8Length cs < 2 then .error .tooShort
  else
    match cs with
    | a :: b :: rest =>
      if a.isDigit ∧ b.isDigit then .ok (digitValue a * 10 + digitValue b, rest)
      else .error .invalid
    | _ => .error .invalid

/-- The offset in minutes: none for `Z`, or a sign, hours and minutes. What separates hours and
minutes is left to `separator`. -/
def offset (separator : List Char → Except InstantFault (List Char)) :
    List Char → Except InstantFault (Int × List Char)
  | [] => .error .tooShort
  | c :: rest =>
    if c = 'Z' ∨ c = 'z' then .ok (0, rest)
    else if c = '+' ∨ c = '-' ∨ c = '\u2212' then do
      let (hours, rest) ← twoDigits rest
      let rest ← separator rest
      let (minutes, rest) ← twoDigits rest
      if 59 < minutes then .error .outOfRange
      else
        let total : Int := hours * 60 + minutes
        .ok (if c = '+' then total else -total, rest)
    else .error .invalid

/-! ## The strict reader -/

/-- A date: four digits for the year, and two each for month and day. A date that does not exist is
reported before anything behind it is looked at. -/
def strictDate (cs : List Char) : Except InstantFault (Date × List Char) := do
  let (year, cs) ← fixedDigits 4 0 cs
  let cs ← expect '-' cs
  let (month, cs) ← fixedDigits 2 0 cs
  let cs ← expect '-' cs
  let (day, cs) ← fixedDigits 2 0 cs
  let date : Date := ⟨year, month, day⟩
  if date.exists? then .ok (date, cs) else .error .outOfRange

/-- A date and the time of day behind it. -/
def strictLocal (cs : List Char) : Except InstantFault (Local × List Char) := do
  let (date, cs) ← strictDate cs
  let cs ← timeMark cs
  let (hour, cs) ← fixedDigits 2 0 cs
  let cs ← expect ':' cs
  let (minute, cs) ← fixedDigits 2 0 cs
  let cs ← expect ':' cs
  let (second, cs) ← fixedDigits 2 0 cs
  let (nanos, cs) ← fraction cs
  let t : Local := ⟨date, hour, minute, second, nanos⟩
  if t.timeExists then .ok (t, cs) else .error .outOfRange

/-- Reads a timestamp of RFC 3339. -/
def strict (s : String) : Except InstantFault Instant :=
  if utf8Length s.toList < 19 then .error .tooShort
  else do
    let (t, cs) ← strictLocal s.toList
    let (offset, cs) ← offset (expect ':') cs
    if cs.isEmpty then t.at offset else .error .tooLong

/-! ## The relaxed reader -/

/-- A number of at least one digit and at most `width` ones, if there is a width. -/
def looseDigits (width : Option Nat) (cs : List Char) : Except InstantFault (Nat × List Char) :=
  match cs with
  | [] => .error .tooShort
  | c :: _ =>
    if !c.isDigit then .error .invalid
    else
      let run := cs.takeWhile Char.isDigit
      let digits := match width with
        | some w => run.take w
        | none => run
      let n := digitsValue digits
      if n ≤ maxInt64.natAbs then .ok (n, cs.drop digits.length) else .error .outOfRange

/-- A number of one or two digits within its range, behind blanks. -/
def looseNumber (low high : Nat) (cs : List Char) : Except InstantFault (Nat × List Char) := do
  let (n, rest) ← looseDigits (some 2) (dropBlanks cs)
  if low ≤ n ∧ n ≤ high then .ok (n, rest) else .error .outOfRange

/-- A year of 32 bits behind blanks: up to four digits, or a sign and any number of them. -/
def looseYear (cs : List Char) : Except InstantFault (Int × List Char) := do
  let (year, rest) ← match dropBlanks cs with
    | '-' :: rest => (looseDigits none rest).map (fun r => (-(r.1 : Int), r.2))
    | '+' :: rest => (looseDigits none rest).map (fun r => ((r.1 : Int), r.2))
    | cs => (looseDigits (some 4) cs).map (fun r => ((r.1 : Int), r.2))
  if -0x80000000 ≤ year ∧ year < 0x80000000 then .ok (year, rest) else .error .outOfRange

/-- Expects a character behind blanks. -/
def expectLoosely (c : Char) (cs : List Char) : Except InstantFault (List Char) :=
  expect c (dropBlanks cs)

/-- The offset behind blanks: also the letters `UTC`, and between hours and minutes any run of
colons and blanks. -/
def looseOffset (cs : List Char) : Except InstantFault (Int × List Char) :=
  match dropBlanks cs with
  | u :: t :: c :: rest =>
    if u.toUpper = 'U' ∧ t.toUpper = 'T' ∧ c.toUpper = 'C' then .ok (0, rest)
    else offset separator (u :: t :: c :: rest)
  | cs => offset separator cs
where
  /-- Skips colons and blanks. -/
  separator (cs : List Char) : Except InstantFault (List Char) :=
    .ok (cs.dropWhile (fun c => c == ':' || isBlank c))

/-- Whether a year lies in the range of instants. -/
def yearInRange (year : Int) : Bool := decide (-262143 ≤ year ∧ year ≤ 262142)

/-- Reads a timestamp with some freedom in its form. The date as a whole is checked when
everything has been read. -/
def relaxed (s : String) : Except InstantFault Instant := do
  let (year, cs) ← looseYear s.toList
  let cs ← expectLoosely '-' cs
  let (month, cs) ← looseNumber 1 12 cs
  let cs ← expectLoosely '-' cs
  let (day, cs) ← looseNumber 1 31 cs
  let cs ← timeMark cs
  let (hour, cs) ← looseNumber 0 23 cs
  let cs ← expectLoosely ':' cs
  let (minute, cs) ← looseNumber 0 59 cs
  let cs ← expectLoosely ':' cs
  let (second, cs) ← looseNumber 0 60 cs
  let (nanos, cs) ← fraction cs
  let (offset, cs) ← looseOffset cs
  if !(dropBlanks cs).isEmpty then throw .tooLong
  let date : Date := ⟨year, month, day⟩
  if !(yearInRange year && date.exists?) then throw .outOfRange
  (⟨date, hour, minute, second, nanos⟩ : Local).at offset

end Instant

end RelationalCatalog
