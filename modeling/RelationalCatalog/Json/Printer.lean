import RelationalCatalog.Json.Basic
import RelationalCatalog.Number.Shortest
import RelationalCatalog.Text.Hexadecimal

/-!
# The written form of JSON values

Values are written without blanks and members in their order. In a text only the quote, the
backslash and the characters below the space are escaped, each by its short form if it has one;
all others stand for themselves.
-/

namespace RelationalCatalog

namespace Json

/-- A character as it stands between quotes. -/
def escaped (c : Char) : List Char :=
  if c = '"' then ['\\', '"']
  else if c = '\\' then ['\\', '\\']
  else if c = '\x08' then ['\\', 'b']
  else if c = '\x0c' then ['\\', 'f']
  else if c = '\n' then ['\\', 'n']
  else if c = '\x0d' then ['\\', 'r']
  else if c = '\t' then ['\\', 't']
  else if c < ' ' then ['\\', 'u', '0', '0', hexDigit (c.toNat / 16), hexDigit (c.toNat % 16)]
  else [c]

/-- A text between quotes. -/
def quoted (s : String) : List Char := '"' :: (s.toList.flatMap escaped ++ ['"'])

/-- A number that is not finite has no written form and is written as `null`. -/
def floatChars (x : Binary64) : List Char :=
  if x.isFinite then FloatFormat.wire.write x else ['n', 'u', 'l', 'l']

mutual

/-- The characters of a value's written form. -/
def chars : Json → List Char
  | .null => ['n', 'u', 'l', 'l']
  | .bool true => ['t', 'r', 'u', 'e']
  | .bool false => ['f', 'a', 'l', 's', 'e']
  | .int n => intDigits n
  | .float x => floatChars x
  | .str s => quoted s
  | .arr [] => ['[', ']']
  | .arr (v :: rest) => '[' :: (chars v ++ itemChars rest)
  | .obj [] => ['\x7b', '\x7d']
  | .obj ((n, v) :: rest) => '\x7b' :: (quoted n ++ ':' :: (chars v ++ memberChars rest))

/-- The items after the first one and the closing bracket. -/
def itemChars : List Json → List Char
  | [] => [']']
  | v :: rest => ',' :: (chars v ++ itemChars rest)

/-- The members after the first one and the closing brace. -/
def memberChars : List (String × Json) → List Char
  | [] => ['\x7d']
  | (n, v) :: rest => ',' :: (quoted n ++ ':' :: (chars v ++ memberChars rest))

end

/-- The written form of a value. -/
def render (v : Json) : String := String.ofList v.chars

end Json

end RelationalCatalog
