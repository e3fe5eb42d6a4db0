import RelationalCatalog.Text.Hexadecimal

/-!
# Tokens of a YAML text

A text is cut into lines, and a line into the marks of its structure and its scalars. A token
knows its line and its column, because outside of brackets the columns say what belongs to what.
Inside of brackets, which may extend over several lines, a scalar ends also at a comma or a
bracket. Comments begin with a number sign that is not part of a scalar.

The tokens are those of plain documents: there are no anchors, tags, directives, complex keys and
scalars of several lines.
-/

namespace RelationalCatalog

namespace Yaml

/-- What a token is. -/
inductive Sign
  /-- The dash in front of an item. -/
  | entry
  /-- The colon behind a name. -/
  | colon
  | comma
  | openList
  | closeList
  | openMap
  | closeMap
  /-- A scalar without quotes. -/
  | plain (cs : List Char)
  /-- A scalar between quotes. -/
  | quoted (cs : List Char)
deriving DecidableEq

/-- A token at its place. -/
structure Token where
  /-- The number of the line. -/
  line : Nat
  /-- The number of characters in front of the token. -/
  column : Nat
  /-- What it is. -/
  sign : Sign
deriving DecidableEq

/-- Whether a character ends a line. -/
def isLineBreak (c : Char) : Bool :=
  c == '\n' || c == '\x0d' || c == '\u0085' || c == '\u2028' || c == '\u2029'

/-- Whether a character may stand in a text. -/
def isPrintable (c : Char) : Bool :=
  let n := c.toNat
  c == '\t' || isLineBreak c || (0x20 ≤ n && n ≤ 0x7e) || (0xa0 ≤ n && n ≤ 0xfffd && n != 0xfeff) ||
    0x10000 ≤ n

/-- Whether a character separates tokens. -/
def isGap (c : Char) : Bool := c == ' ' || c == '\t'

/-- Whether a text is at its end or goes on with a gap. -/
def atGap : List Char → Bool
  | [] => true
  | c :: _ => isGap c

/-- The lines of a text. -/
def splitLines : List Char → List (List Char)
  | [] => [[]]
  | c :: rest =>
    if isLineBreak c then [] :: splitLines rest
    else
      match splitLines rest with
      | line :: lines => (c :: line) :: lines
      | [] => [[c]]

/-- Whether a character is a mark inside of brackets. -/
def isFlowMark (c : Char) : Bool := c == ',' || c == '[' || c == ']' || c == '\x7b' || c == '\x7d'

/-- Whether a plain scalar ends in front of a character. -/
def endsPlain (inBrackets : Bool) (c : Char) (rest : List Char) : Bool :=
  (c == ':' && atGap rest) || (inBrackets && isFlowMark c) ||
    (isGap c && (match rest.dropWhile isGap with
      | [] => true
      | next :: _ => next == '#' || (inBrackets && isFlowMark next)))

/-- A plain scalar in front of a line, and what follows it. -/
def takePlain (inBrackets : Bool) : List Char → List Char × List Char
  | [] => ([], [])
  | c :: rest =>
    if endsPlain inBrackets c rest then ([], c :: rest)
    else
      let (cs, rest) := takePlain inBrackets rest
      (c :: cs, rest)

/-- The characters up to a single quote that is not written twice, and what follows it. -/
def takeSingleQuoted : List Char → Option (List Char × List Char)
  | [] => none
  | '\'' :: '\'' :: rest => do
    let (cs, rest) ← takeSingleQuoted rest
    return ('\'' :: cs, rest)
  | c :: rest =>
    if c = '\'' then some ([], rest)
    else do
      let (cs, rest) ← takeSingleQuoted rest
      return (c :: cs, rest)

/-- The character of an escape of one letter. -/
def letterEscape? (c : Char) : Option Char :=
  match c with
  | '0' => some '\x00'
  | 'a' => some '\x07'
  | 'b' => some '\x08'
  | 't' => some '\t'
  | '\t' => some '\t'
  | 'n' => some '\n'
  | 'v' => some '\x0b'
  | 'f' => some '\x0c'
  | 'r' => some '\x0d'
  | 'e' => some '\x1b'
  | ' ' => some ' '
  | '"' => some '"'
  | '\'' => some '\''
  | '/' => some '/'
  | '\\' => some '\\'
  | 'N' => some '\u0085'
  | '_' => some '\u00a0'
  | 'L' => some '\u2028'
  | 'P' => some '\u2029'
  | _ => none

/-- The number of hexadecimal digits behind the letter of an escape. -/
def escapeWidth? (c : Char) : Option Nat :=
  match c with
  | 'x' => some 2
  | 'u' => some 4
  | 'U' => some 8
  | _ => none

/-- The character of a number, if there is one. -/
def charOfNumber? (n : Nat) : Option Char :=
  if n.isValidChar then some (Char.ofNat n) else none

/-- The character of an escape, and what follows it. -/
def takeEscape : List Char → Option (Char × List Char)
  | [] => none
  | c :: rest =>
    match letterEscape? c, escapeWidth? c with
    | some e, _ => some (e, rest)
    | none, some width =>
      let digits := rest.take width
      if digits.length < width then none
      else do
        let values ← digits.mapM hexValue?
        let e ← charOfNumber? (values.foldl (fun n d => n * 16 + d) 0)
        return (e, rest.drop width)
    | none, none => none

/-- The characters up to a double quote, and what follows it. -/
def takeDoubleQuoted : (fuel : Nat) → List Char → Option (List Char × List Char)
  | 0, _ => none
  | _ + 1, [] => none
  | fuel + 1, c :: rest =>
    if c = '"' then some ([], rest)
    else do
      let (c, rest) ← if c = '\\' then takeEscape rest else some (c, rest)
      let (cs, rest) ← takeDoubleQuoted fuel rest
      return (c :: cs, rest)

/-- The mark that a character is inside of brackets, and by how much it changes their depth. -/
def flowMark? (c : Char) : Option Sign :=
  match c with
  | ',' => some .comma
  | '[' => some .openList
  | ']' => some .closeList
  | '\x7b' => some .openMap
  | '\x7d' => some .closeMap
  | _ => none

/-- The depth of brackets behind a token; a bracket that closes none is refused. -/
def Sign.depthBehind (depth : Nat) : Sign → Option Nat
  | .openList | .openMap => some (depth + 1)
  | .closeList | .closeMap => if depth = 0 then none else some (depth - 1)
  | .comma => if depth = 0 then none else some depth
  | _ => some depth

/-- Whether a plain scalar may begin with a character that goes on with `rest`. -/
def beginsPlain (inBrackets : Bool) (c : Char) (rest : List Char) : Bool :=
  if c == '-' then !atGap rest
  else if c == '?' || c == ':' then !inBrackets && !atGap rest
  else !("#&*!|>'\"%@\x60".toList.contains c)

/-- The token in front of a line, and what follows it. -/
def takeSign (inBrackets : Bool) (c : Char) (rest : List Char) : Option (Sign × List Char) :=
  match flowMark? c with
  | some sign => some (sign, rest)
  | none =>
    if c = '-' ∧ atGap rest then if inBrackets then none else some (.entry, rest)
    else if c = ':' ∧ (inBrackets ∨ atGap rest) then some (.colon, rest)
    else if c = '\'' then (takeSingleQuoted rest).map (fun r => (.quoted r.1, r.2))
    else if c = '"' then
      (takeDoubleQuoted (rest.length + 1) rest).map (fun r => (.quoted r.1, r.2))
    else if beginsPlain inBrackets c rest then
      let (cs, rest) := takePlain inBrackets rest
      if inBrackets ∧ (c :: cs).getLast? = some ':' then none
      else some (.plain (c :: cs), rest)
    else none

/-- The tokens of a line and the depth of brackets behind it. Where a name could begin outside of
brackets, a tab is refused. -/
def lexLine (line : Nat) :
    (fuel : Nat) → (column depth : Nat) → (fresh : Bool) → List Char → Option (List Token × Nat)
  | 0, _, _, _, _ => none
  | _ + 1, _, depth, _, [] => some ([], depth)
  | fuel + 1, column, depth, fresh, c :: rest =>
    if c = ' ' then lexLine line fuel (column + 1) depth fresh rest
    else if c = '\t' then
      if depth = 0 ∧ fresh then none else lexLine line fuel (column + 1) depth fresh rest
    else if c = '#' then some ([], depth)
    else do
      let (sign, behind) ← takeSign (decide (0 < depth)) c rest
      let depth ← sign.depthBehind depth
      let next := column + ((c :: rest).length - behind.length)
      let (tokens, depth) ← lexLine line fuel next depth (sign == .entry) behind
      return (⟨line, column, sign⟩ :: tokens, depth)

/-- The tokens of lines, counted from `line`. -/
def lexLines : (line depth : Nat) → List (List Char) → Option (List Token)
  | _, depth, [] => if depth = 0 then some [] else none
  | line, depth, cs :: rest => do
    let (tokens, depth) ← lexLine line (cs.length + 1) 0 depth true cs
    let more ← lexLines (line + 1) depth rest
    return tokens ++ more

/-- The tokens of a text. -/
def tokens? (cs : List Char) : Option (List Token) :=
  if cs.all isPrintable then lexLines 0 0 (splitLines cs) else none

end Yaml

end RelationalCatalog
