import RelationalCatalog.Address.Ipv4
import RelationalCatalog.Text.Hexadecimal

/-!
# Addresses of eight groups

An address of version 6 is written as its eight groups of sixteen bits in hexadecimal, with
colons between them. Two colons stand for as many zero groups as are missing, at least one, and
may be there once. The last two groups may be written as an address of version 4.

The printed form is the shortest of these: the first of the longest runs of two or more zero
groups is left out. An address that embeds one of version 4 shows it.
-/

namespace RelationalCatalog

/-- An address of version 6. -/
structure Ipv6 where
  /-- The groups of sixteen bits. -/
  groups : List UInt16
  /-- There are eight of them. -/
  length_eq : groups.length = 8
deriving DecidableEq

/-- The groups that two octets each make. -/
def Ipv4.groups (ip : Ipv4) : List UInt16 :=
  [UInt16.ofNat (ip.a.toNat * 256 + ip.b.toNat), UInt16.ofNat (ip.c.toNat * 256 + ip.d.toNat)]

/-- The address of version 4 that two groups make. -/
def Ipv4.ofGroups (high low : UInt16) : Ipv4 where
  a := UInt8.ofNat (high.toNat / 256)
  b := UInt8.ofNat (high.toNat % 256)
  c := UInt8.ofNat (low.toNat / 256)
  d := UInt8.ofNat (low.toNat % 256)

/-! ## Reading -/

/-- The hexadecimal digits in front of a text, and what follows them. -/
def hexRun (cs : List Char) : List Char × List Char :=
  (cs.takeWhile (fun c => (hexValue? c).isSome), cs.dropWhile (fun c => (hexValue? c).isSome))

/-- The number that hexadecimal digits spell. -/
def hexNumber (digits : List Char) : Nat :=
  digits.foldl (fun n c => n * 16 + (hexValue? c).getD 0) 0

/-- Reads a group of one to four digits. -/
def takeGroup (cs : List Char) : Option (UInt16 × List Char) :=
  let (digits, rest) := hexRun cs
  if digits.isEmpty ∨ 4 < digits.length then none
  else some (UInt16.ofNat (hexNumber digits), rest)

/-- The groups that were read, whether the last two were written as octets, and the rest. -/
structure GroupsRead where
  /-- The groups. -/
  groups : List UInt16
  /-- Whether the last two were written as octets. -/
  dotted : Bool
  /-- What follows the groups. -/
  rest : List Char

/-- Reads no more than `limit` groups. A colon stands in front of each but the first, so it
belongs to the rest if no group follows it. -/
def takeGroups : (limit : Nat) → (isFirst : Bool) → List Char → GroupsRead
  | 0, _, cs => ⟨[], false, cs⟩
  | limit + 1, isFirst, cs =>
    match if isFirst then some cs else takeMark ':' cs with
    | none => ⟨[], false, cs⟩
    | some behind =>
      match if 0 < limit then Ipv4.take behind else none with
      | some (ip, rest) => ⟨ip.groups, true, rest⟩
      | none =>
        match takeGroup behind with
        | none => ⟨[], false, cs⟩
        | some (g, rest) =>
          let more := takeGroups limit false rest
          { more with groups := g :: more.groups }

theorem length_takeGroups (limit : Nat) (isFirst : Bool) (cs : List Char) :
    (takeGroups limit isFirst cs).groups.length ≤ limit := by
  induction limit generalizing isFirst cs with
  | zero => simp [takeGroups]
  | succ limit ih =>
    rw [takeGroups]
    split
    · simp
    · split
      · rename_i h
        split at h
        · simp only [Ipv4.groups, List.length_cons, List.length_nil]
          omega
        · simp at h
      · split
        · simp
        · simpa using ih false _

namespace Ipv6

/-- The address of the groups in front of two colons and of those behind. -/
def ofEnds (front back : List UInt16) (h : front.length + back.length ≤ 8) : Ipv6 where
  groups := front ++ List.replicate (8 - front.length - back.length) 0 ++ back
  length_eq := by simp only [List.length_append, List.length_replicate]; omega

/-- Reads an address. -/
def take (cs : List Char) : Option (Ipv6 × List Char) :=
  let front := takeGroups 8 true cs
  if h : front.groups.length = 8 then some (⟨front.groups, h⟩, front.rest)
  else if front.dotted then none
  else
    match front.rest with
    | ':' :: ':' :: behind =>
      let back := takeGroups (7 - front.groups.length) true behind
      some (ofEnds front.groups back.groups (by
        have hf : front.groups.length ≤ 8 := length_takeGroups ..
        have hb : back.groups.length ≤ 7 - front.groups.length := length_takeGroups ..
        omega), back.rest)
    | _ => none

/-! ## Printing -/

/-- The digits of a group, without leading zeros. -/
def groupChars (g : UInt16) : List Char :=
  let n := g.toNat
  if n < 0x10 then [hexDigit n]
  else if n < 0x100 then [hexDigit (n / 0x10), hexDigit (n % 0x10)]
  else if n < 0x1000 then [hexDigit (n / 0x100), hexDigit (n / 0x10 % 0x10), hexDigit (n % 0x10)]
  else [hexDigit (n / 0x1000), hexDigit (n / 0x100 % 0x10), hexDigit (n / 0x10 % 0x10),
    hexDigit (n % 0x10)]

/-- The groups, with colons between them. -/
def groupsChars (gs : List UInt16) : List Char := [':'].intercalate (gs.map groupChars)

/-- A run of groups: where it begins and how many they are. -/
structure Run where
  /-- The number of groups in front of the run. -/
  start : Nat
  /-- The number of groups in the run. -/
  length : Nat

/-- The first of the longest runs of zero groups. -/
def longestZeroRun (gs : List UInt16) : Run :=
  (List.range gs.length).foldl (fun best start =>
    let length := ((gs.drop start).takeWhile (· == 0)).length
    if best.length < length then ⟨start, length⟩ else best) ⟨0, 0⟩

/-- The address of version 4 that an address embeds. -/
def embedded? (ip : Ipv6) : Option Ipv4 :=
  match ip.groups with
  | [0, 0, 0, 0, 0, 0xffff, high, low] => some (Ipv4.ofGroups high low)
  | _ => none

/-- The characters of an address. -/
def chars (ip : Ipv6) : List Char :=
  match ip.embedded? with
  | some v4 => "::ffff:".toList ++ v4.chars
  | none =>
    let run := longestZeroRun ip.groups
    if 1 < run.length then
      groupsChars (ip.groups.take run.start) ++ ':' :: ':' ::
        groupsChars (ip.groups.drop (run.start + run.length))
    else groupsChars ip.groups

end Ipv6

end RelationalCatalog
