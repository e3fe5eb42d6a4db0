import RelationalCatalog.Json.Printer
import RelationalCatalog.Yaml.Scalar
import RelationalCatalog.Yaml.Token

/-!
# Printing YAML

A value is printed in block style: what belongs to a member stands below its name, two columns
further to the right, and an item stands behind its dash. Only a scalar and an empty list stand
in the line of the name; an empty map has a line of its own. A text has no quotes unless it
could be mistaken for something else without them.
-/

namespace RelationalCatalog

namespace Yaml

/-- Words that some readers take for truth values. -/
def doubtfulWords : List String := ["y", "n", "yes", "no", "on", "off", "true", "false", "null"]

/-- Whether some reader could mistake a text for another value. -/
def isDoubtful (s : String) : Bool :=
  doubtfulWords.contains (String.ofList (s.toList.map Char.toLower)) ||
    nonFiniteWords.contains s.toList || (readBinary64? s.toList).isSome ||
    (match resolve s.toList with
      | some (.str _) => false
      | _ => true)

/-- Whether a character is a control. -/
def isControl (c : Char) : Bool := c.toNat < 0x20 || (0x7f ≤ c.toNat && c.toNat < 0xa0)

/-- Whether a character cannot be the first one of a text without quotes. -/
def isIndicator (c : Char) : Bool := "-?:,[]\x7b\x7d#&*!|>'\"%@\x60".toList.contains c

/-- Whether a colon ends a text or stands in front of a gap. -/
def hasNameEnd : List Char → Bool
  | [] => false
  | c :: rest => (c == ':' && atGap rest) || hasNameEnd rest

/-- Whether the characters of a text allow it to be without quotes. -/
def isPlainText (cs : List Char) : Bool :=
  (match cs.head? with
    | some c => !isGap c && !isIndicator c
    | none => false) &&
    !(cs.getLast?.any isGap) && !hasNameEnd cs && cs.all (fun c => !isControl c && c != '#')

/-- A control character between quotes: the digits behind the letter of its escape. -/
def controlChars (c : Char) : List Char :=
  let n := c.toNat
  let digits := (Nat.toDigits 16 n).map Char.toUpper
  '\\' :: 'x' :: (List.replicate (2 - digits.length) '0' ++ digits)

/-- A character between quotes. -/
def quotedChar (c : Char) : List Char :=
  match c with
  | '\\' => ['\\', '\\']
  | '"' => ['\\', '"']
  | '\x00' => ['\\', '0']
  | '\x07' => ['\\', 'a']
  | '\x08' => ['\\', 'b']
  | '\t' => ['\\', 't']
  | '\n' => ['\\', 'n']
  | '\x0b' => ['\\', 'v']
  | '\x0c' => ['\\', 'f']
  | '\x0d' => ['\\', 'r']
  | '\x1b' => ['\\', 'e']
  | '\u0085' => ['\\', 'N']
  | '\u2028' => ['\\', 'L']
  | '\u2029' => ['\\', 'P']
  | c => if isControl c then controlChars c else [c]

/-- A text between quotes. -/
def quotedText (s : String) : List Char := '"' :: (s.toList.flatMap quotedChar ++ ['"'])

/-- A text as a value. -/
def textChars (s : String) : List Char :=
  if isPlainText s.toList && !isDoubtful s then s.toList else quotedText s

/-- A text as a name. -/
def nameChars (s : String) : List Char :=
  if isPlainText s.toList && !isDoubtful s && !s.toList.contains ':' then s.toList
  else quotedText s

/-- A value that takes no lines of its own. -/
def scalarChars : Json → List Char
  | .str s => textChars s
  | v => v.chars

/-- The lines, further to the right. -/
def indent (lines : List (List Char)) : List (List Char) := lines.map (' ' :: ' ' :: ·)

/-- The lines of an item. -/
def itemOf (lines : List (List Char)) : List (List Char) :=
  match lines with
  | [] => []
  | first :: rest => ('-' :: ' ' :: first) :: indent rest

mutual

/-- The lines of a value. -/
def lines : Json → List (List Char)
  | .arr (v :: rest) => itemOf (lines v) ++ itemLines rest
  | .obj ((n, v) :: rest) => memberOf n v ++ memberLines rest
  | v => [scalarChars v]

/-- The lines of items. -/
def itemLines : List Json → List (List Char)
  | [] => []
  | v :: rest => itemOf (lines v) ++ itemLines rest

/-- The lines of a member. -/
def memberOf (name : String) : Json → List (List Char)
  | .arr (v :: rest) => (nameChars name ++ [':']) :: indent (itemOf (lines v) ++ itemLines rest)
  | .obj ((n, v) :: rest) =>
    (nameChars name ++ [':']) :: indent (memberOf n v ++ memberLines rest)
  | .obj [] => (nameChars name ++ [':']) :: indent [['\x7b', '\x7d']]
  | v => [nameChars name ++ ':' :: ' ' :: scalarChars v]

/-- The lines of members. -/
def memberLines : List (String × Json) → List (List Char)
  | [] => []
  | (n, v) :: rest => memberOf n v ++ memberLines rest

end

/-- The text of a value. -/
def render (v : Json) : String := String.ofList ((lines v).flatMap (· ++ ['\n']))

end Yaml

end RelationalCatalog
