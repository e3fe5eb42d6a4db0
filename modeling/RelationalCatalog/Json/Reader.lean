import RelationalCatalog.Json.Token

/-!
# Reading texts into drafts

`Document.ofText` reads a text from left to right and leaves every fault in its place. Brackets
may be nested deeply, but what lies within more than 127 of them can only be skipped over.
-/

namespace RelationalCatalog

/-- How many brackets may be open around what is read. -/
def maxNesting : Nat := 127

/-- A draft and whether something other than white space stands behind it. -/
structure Document where
  /-- The draft of the value. -/
  root : Draft
  /-- Whether more follows. -/
  trailing : Bool

namespace Draft

/-- The rest behind a draft, unless the text cannot be read on. -/
abbrev Rest := Option (List Char)

/-- The draft of a token from what reading and what skipping it gives. -/
def ofToken {α : Type} (read : Except Fault (α × List Char)) (skip : Except Fault (List Char))
    (value : α → Draft) : Draft × Rest :=
  match read, skip with
  | .ok (a, rest), _ => (value a, some rest)
  | .error f, .ok rest => (.fault f none, some rest)
  | .error f, .error g => (.fault f (some g), none)

/-- Reads a word that stands for a value. -/
def ofWord (expected : List Char) (value : Draft) (cs : List Char) : Draft × Rest :=
  match Token.word expected cs with
  | .ok rest => (value, some rest)
  | .error f => (.stop f, none)

/-- Reads a number. One that has no value is a fault that can be skipped. -/
def ofNumber (cs : List Char) : Draft × Rest :=
  match Token.numeral .cutOff cs with
  | .ok (n, rest) => (n.value?.getD (.fault .malformed none), some rest)
  | .error f =>
    match Token.numeral .malformed cs with
    | .ok (_, rest) => (.fault f none, some rest)
    | .error g => (.fault f (some g), none)

/-- Reads a text behind its opening quote. -/
def ofQuoted (cs : List Char) : Draft × Rest :=
  ofToken (Token.readText (cs.length + 1) cs) (Token.skipText (cs.length + 1) cs)
    (fun text => .str (String.ofList text))

/-- The items as far as they can be read: nothing, if there is no room for their bracket. -/
def itemsWithin (room : Nat) (items : List Draft) (e : Ending) : Draft :=
  if room = 0 then
    .arr [] (.broken .malformed ((itemsSkipFault? items).or e.skipFault?))
  else .arr items e

/-- The members as far as they can be read: nothing, if there is no room for their brace. -/
def membersWithin (room : Nat) (members : List (String × Draft)) (e : Ending) : Draft :=
  if room = 0 then
    .obj [] (.broken .malformed ((membersSkipFault? members).or e.skipFault?))
  else .obj members e

/-- An end at which readers of both kinds stop. -/
def stopped (f : Fault) : Ending := .broken f (some f)

mutual

/-- Reads one value within `room` brackets; `fuel` bounds the number of tokens. -/
def read : (fuel : Nat) → (room : Nat) → List Char → Draft × Rest
  | 0, _, _ => (stop .cutOff, none)
  | fuel + 1, room, cs =>
    match Token.dropSpaces cs with
    | [] => (stop .cutOff, none)
    | c :: rest =>
      if c = 'n' then ofWord ['u', 'l', 'l'] .null rest
      else if c = 't' then ofWord ['r', 'u', 'e'] (.bool true) rest
      else if c = 'f' then ofWord ['a', 'l', 's', 'e'] (.bool false) rest
      else if c = '"' then ofQuoted rest
      else if c = '-' ∨ c.isDigit then ofNumber (c :: rest)
      else if c = '[' then
        let (items, e, rest) := readFirstItem fuel (room - 1) rest
        (itemsWithin room items e, rest)
      else if c = '\x7b' then
        let (members, e, rest) := readFirstMember fuel (room - 1) rest
        (membersWithin room members e, rest)
      else (stop .malformed, none)

/-- Reads items behind the opening bracket. -/
def readFirstItem : (fuel : Nat) → (room : Nat) → List Char → List Draft × Ending × Rest
  | 0, _, _ => ([], stopped .cutOff, none)
  | fuel + 1, room, cs =>
    match Token.dropSpaces cs with
    | [] => ([], stopped .cutOff, none)
    | c :: rest =>
      if c = ']' then ([], .closed, some rest) else readItem fuel room (c :: rest)

/-- Reads an item and those behind it. -/
def readItem : (fuel : Nat) → (room : Nat) → List Char → List Draft × Ending × Rest
  | 0, _, _ => ([], stopped .cutOff, none)
  | fuel + 1, room, cs =>
    match read fuel room cs with
    | (item, none) => ([item], .closed, none)
    | (item, some rest) =>
      match Token.dropSpaces rest with
      | [] => ([item], stopped .cutOff, none)
      | c :: rest =>
        if c = ']' then ([item], .closed, some rest)
        else if c = ',' then
          let (items, e, rest) := readItem fuel room rest
          (item :: items, e, rest)
        else ([item], stopped .malformed, none)

/-- Reads members behind the opening brace. -/
def readFirstMember :
    (fuel : Nat) → (room : Nat) → List Char → List (String × Draft) × Ending × Rest
  | 0, _, _ => ([], stopped .cutOff, none)
  | fuel + 1, room, cs =>
    match Token.dropSpaces cs with
    | [] => ([], stopped .cutOff, none)
    | c :: rest =>
      if c = '\x7d' then ([], .closed, some rest) else readMember fuel room (c :: rest)

/-- Reads a member and those behind it. -/
def readMember :
    (fuel : Nat) → (room : Nat) → List Char → List (String × Draft) × Ending × Rest
  | 0, _, _ => ([], stopped .cutOff, none)
  | fuel + 1, room, cs =>
    match Token.dropSpaces cs with
    | [] => ([], stopped .cutOff, none)
    | c :: rest =>
      if c = '"' then
        match ofQuoted rest with
        | (.str name, some rest) =>
          let (value, members, e, rest) := readNamed fuel room rest
          ((name, value) :: members, e, rest)
        | (.fault f none, some rest) =>
          -- The name can be skipped but not read, so the members end here for a reader.
          let (value, members, e, rest) := readNamed fuel room rest
          let skip := (skipFault? value).or ((membersSkipFault? members).or e.skipFault?)
          ([], .broken f skip, rest)
        | (.fault f skip, _) => ([], .broken f skip, none)
        | (_, _) => ([], stopped .malformed, none)
      else ([], stopped .malformed, none)

/-- Reads the value behind a name and the members behind it. -/
def readNamed :
    (fuel : Nat) → (room : Nat) → List Char → Draft × List (String × Draft) × Ending × Rest
  | 0, _, _ => (stop .cutOff, [], .closed, none)
  | fuel + 1, room, cs =>
    match Token.dropSpaces cs with
    | [] => (stop .cutOff, [], .closed, none)
    | c :: rest =>
      if c = ':' then
        match read fuel room rest with
        | (value, none) => (value, [], .closed, none)
        | (value, some rest) =>
          match Token.dropSpaces rest with
          | [] => (value, [], stopped .cutOff, none)
          | c :: rest =>
            if c = '\x7d' then (value, [], .closed, some rest)
            else if c = ',' then
              let (members, e, rest) := readMember fuel room rest
              (value, members, e, rest)
            else (value, [], stopped .malformed, none)
      else (stop .malformed, [], .closed, none)

end

end Draft

/-- More tokens than a text of that many characters has, counting each step of the reader. -/
def tokenBound (cs : List Char) : Nat := 4 * cs.length + 4

/-- Reads a text. -/
def Document.ofText (s : String) : Document :=
  let cs := s.toList
  match Draft.read (tokenBound cs) maxNesting cs with
  | (root, some rest) => ⟨root, !(Token.dropSpaces rest).isEmpty⟩
  | (root, none) => ⟨root, false⟩

/-- The value of a text that is JSON from end to end, the last one of a repeated name. -/
def Json.ofText? (s : String) : Option Json :=
  let document := Document.ofText s
  match document.root.toJson, document.trailing with
  | .ok v, false => some v.unrepeated
  | _, _ => none

end RelationalCatalog
