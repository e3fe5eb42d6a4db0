import RelationalCatalog.Collection.SortedMap
import RelationalCatalog.Json.Basic
import RelationalCatalog.Number.Decimal
import RelationalCatalog.Text.Blank
import RelationalCatalog.Text.Hexadecimal

/-!
# Settings in the environment

A variable of which the name begins with `APP__`, in letters of either case, is a setting. Two
underscores or a point separate the names of the maps that lead to it.

The value of a variable is read in a notation of its own: truth values, integers, numbers with a
point, texts between quotes, lists in brackets and maps in braces with an equals sign behind each
name. What is none of these is a text, within lists and maps up to the next mark. A value that is
not in the notation from end to end is a text as a whole.
-/

namespace RelationalCatalog

namespace Environment

/-- Whether a character is a mark of lists and maps. -/
def isSeparator (c : Char) : Bool :=
  c == ',' || c == '[' || c == ']' || c == '\x7b' || c == '\x7d'

/-- Whether a character may stand around values. -/
def isGap (c : Char) : Bool :=
  c == ' ' || c == '\t' || c == '\n' || c == '\x0c' || c == '\x0d'

/-- Drops what may stand in front of a value. -/
def dropGaps (cs : List Char) : List Char := cs.dropWhile isGap

/-- The value of characters without quotes. -/
def bareValue (cs : List Char) : Json :=
  let s := String.ofList cs
  let text :=
    match readUInt64 s, readInt64 s with
    | .ok n, _ => Json.int n.toNat
    | .error _, .ok n => .int n.toInt
    | .error _, .error _ => .str s
  if cs.contains '.' then
    match readBinary64? cs with
    | some x => .float x
    | none => text
  else text

/-- The character of an escape between quotes, and what follows it. -/
def takeEscape : List Char → Option (Char × List Char)
  | 'b' :: rest => some ('\x08', rest)
  | 't' :: rest => some ('\t', rest)
  | 'n' :: rest => some ('\n', rest)
  | 'f' :: rest => some ('\x0c', rest)
  | 'r' :: rest => some ('\x0d', rest)
  | '"' :: rest => some ('"', rest)
  | '\\' :: rest => some ('\\', rest)
  | c :: rest => do
    let width ← if c = 'u' then some 4 else if c = 'U' then some 8 else none
    let values ← (rest.take width).mapM hexValue?
    let n := values.foldl (fun n d => n * 16 + d) 0
    if values.length = width ∧ n.isValidChar then some (Char.ofNat n, rest.drop width) else none
  | [] => none

/-- The characters up to a double quote, and what follows it. -/
def takeQuoted : (fuel : Nat) → List Char → Option (List Char × List Char)
  | 0, _ => none
  | _ + 1, [] => none
  | fuel + 1, c :: rest =>
    if c = '"' then some ([], rest)
    else do
      let (c, rest) ← if c = '\\' then takeEscape rest else some (c, rest)
      let (cs, rest) ← takeQuoted fuel rest
      return (c :: cs, rest)

/-- Whether a character may stand in a name without quotes. -/
def isNameChar (c : Char) : Bool := c.isAlphanum || c == '_' || c == '-'

/-- The name of a member, and what follows it. -/
def takeName (cs : List Char) : Option (List Char × List Char) :=
  match dropGaps cs with
  | '"' :: rest => takeQuoted (rest.length + 1) rest
  | cs =>
    let name := cs.takeWhile isNameChar
    if name.isEmpty then none else some (name, cs.dropWhile isNameChar)

/-- Drops a word in front of a text. -/
def dropWord? : (word : List Char) → List Char → Option (List Char)
  | [], cs => some cs
  | w :: word, c :: rest => if w = c then dropWord? word rest else none
  | _ :: _, [] => none

mutual

/-- Reads a value and the gaps around it. -/
def takeValue : (fuel : Nat) → List Char → Option (Json × List Char)
  | 0, _ => none
  | fuel + 1, cs => do
    let cs := dropGaps cs
    let (v, rest) ←
      match dropWord? "true".toList cs, dropWord? "false".toList cs with
      | some rest, _ => some (Json.bool true, rest)
      | none, some rest => some (Json.bool false, rest)
      | none, none =>
        match cs with
        | '[' :: rest => (takeItems fuel rest).map (fun r => (Json.arr r.1, r.2))
        | '\x7b' :: rest =>
          (takeMembers fuel rest).map (fun r => (Json.obj (SortedMap.ofList r.1).entries, r.2))
        | '"' :: rest =>
          (takeQuoted (rest.length + 1) rest).map (fun r => (Json.str (String.ofList r.1), r.2))
        | '\'' :: c :: '\'' :: rest => some (Json.str (String.ofList [c]), rest)
        | '\'' :: _ => none
        | cs =>
          some (bareValue (trimBlanks (cs.takeWhile (fun c => !isSeparator c))),
            cs.dropWhile (fun c => !isSeparator c))
    return (v, dropGaps rest)

/-- Reads the items of a list up to its end. -/
def takeItems : (fuel : Nat) → List Char → Option (List Json × List Char)
  | 0, _ => none
  | fuel + 1, cs =>
    match cs with
    | ']' :: rest => some ([], rest)
    | cs => do
      let (v, rest) ← takeValue fuel cs
      match rest with
      | ',' :: rest =>
        let (items, rest) ← takeItems fuel rest
        return (v :: items, rest)
      | ']' :: rest => return ([v], rest)
      | _ => none

/-- Reads the members of a map up to its end. -/
def takeMembers : (fuel : Nat) → List Char → Option (List (String × Json) × List Char)
  | 0, _ => none
  | fuel + 1, cs =>
    match cs with
    | '\x7d' :: rest => some ([], rest)
    | cs => do
      let (name, rest) ← takeName cs
      match dropGaps rest with
      | '=' :: rest =>
        let (v, rest) ← takeValue fuel rest
        match rest with
        | ',' :: rest =>
          let (members, rest) ← takeMembers fuel rest
          return ((String.ofList name, v) :: members, rest)
        | '\x7d' :: rest => return ([(String.ofList name, v)], rest)
        | _ => none
      | _ => none

end

/-- The value of a variable. -/
def readValue (s : String) : Json :=
  match takeValue (3 * s.length + 3) s.toList with
  | some (v, []) => v
  | _ => .str s

/-- The names of the maps and the setting that the rest of a variable's name lists. -/
def splitName : List Char → List (List Char)
  | [] => [[]]
  | '_' :: '_' :: rest => [] :: splitName rest
  | c :: rest =>
    if c = '.' then [] :: splitName rest
    else
      match splitName rest with
      | name :: names => (c :: name) :: names
      | [] => [[c]]

/-- The names of the maps and the setting that a variable is for, in lower case. -/
def settingPath? (name : String) : Option (List String) := do
  let rest ← dropWord? "app__".toList (name.toList.map Char.toLower)
  let names := splitName rest
  if names.any List.isEmpty then none else some (names.map String.ofList)

/-- A value within maps of the listed names. -/
def nest (path : List String) (v : Json) : Json :=
  path.foldr (fun name inner => Json.obj [(name, inner)]) v

/-- The settings that a variable makes, if it is for one. -/
def settings? (name value : String) : Option Json :=
  (settingPath? name).map (fun path => nest path (readValue value))

end Environment

end RelationalCatalog
