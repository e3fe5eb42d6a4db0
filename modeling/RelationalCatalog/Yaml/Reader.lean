import RelationalCatalog.Collection.SortedMap
import RelationalCatalog.Yaml.Scalar
import RelationalCatalog.Yaml.Token

/-!
# Reading YAML

A text holds one document, a map. Outside of brackets, the items of a list are those dashes that
stand in one column, and the members of a map those names; what belongs to one of them stands
further to the right. Only the dashes of a list that is the value of a member may stand in the
column of the member's name. The members of a map are ordered by name, and of a repeated name
the last value counts.
-/

namespace RelationalCatalog

namespace Yaml

/-- The map of members. -/
def mapOf (members : List (String × Json)) : Json := .obj (SortedMap.ofList members).entries

/-- The characters of a scalar. -/
def Sign.scalar? : Sign → Option (List Char)
  | .plain cs => some cs
  | .quoted cs => some cs
  | _ => none

/-- The value of a scalar. -/
def Sign.value? : Sign → Option Json
  | .plain cs => resolve cs
  | .quoted cs => some (.str (String.ofList cs))
  | _ => none

mutual

/-- Reads a value inside of brackets, or one that begins with a bracket. -/
def flowNode : (fuel : Nat) → List Token → Option (Json × List Token)
  | 0, _ => none
  | _ + 1, [] => none
  | fuel + 1, t :: rest =>
    match t.sign with
    | .openList => do
      let (items, rest) ← flowItems fuel rest
      return (.arr items, rest)
    | .openMap => do
      let (members, rest) ← flowMembers fuel rest
      return (mapOf members, rest)
    | sign => do
      let v ← sign.value?
      return (v, rest)

/-- Reads the items up to the end of a list. A comma may stand behind the last one. -/
def flowItems : (fuel : Nat) → List Token → Option (List Json × List Token)
  | 0, _ => none
  | _ + 1, [] => none
  | fuel + 1, t :: rest =>
    if t.sign = .closeList then some ([], rest)
    else do
      let (v, rest) ← flowNode fuel (t :: rest)
      match rest with
      | [] => none
      | u :: rest =>
        if u.sign = .closeList then return ([v], rest)
        else if u.sign = .comma then
          let (items, rest) ← flowItems fuel rest
          return (v :: items, rest)
        else none

/-- Reads the members up to the end of a map. A name alone has no value. -/
def flowMembers : (fuel : Nat) → List Token → Option (List (String × Json) × List Token)
  | 0, _ => none
  | _ + 1, [] => none
  | fuel + 1, t :: rest =>
    if t.sign = .closeMap then some ([], rest)
    else do
      let name ← t.sign.scalar?
      let (v, rest) ← flowMember fuel rest
      match rest with
      | [] => none
      | u :: rest =>
        if u.sign = .closeMap then return ([(String.ofList name, v)], rest)
        else if u.sign = .comma then
          let (members, rest) ← flowMembers fuel rest
          return ((String.ofList name, v) :: members, rest)
        else none

/-- Reads what follows the name of a member. -/
def flowMember : (fuel : Nat) → List Token → Option (Json × List Token)
  | 0, _ => none
  | _ + 1, [] => none
  | fuel + 1, t :: rest =>
    if t.sign = .colon then
      match rest with
      | [] => none
      | u :: _ =>
        if u.sign = .comma ∨ u.sign = .closeMap then some (.null, rest) else flowNode fuel rest
    else some (.null, t :: rest)

end

/-- Whether a token is the name of a member: a scalar with a colon behind it in its line. -/
def isName (t : Token) (rest : List Token) : Bool :=
  t.sign.scalar?.isSome &&
    (match rest with
      | u :: _ => u.sign == .colon && u.line == t.line
      | [] => false)

mutual

/-- Reads the value of which no token stands left of the column `low`; if there is none, it is
null. -/
def blockNode : (fuel low : Nat) → List Token → Option (Json × List Token)
  | 0, _, _ => none
  | _ + 1, _, [] => some (.null, [])
  | fuel + 1, low, t :: rest =>
    if t.column < low then some (.null, t :: rest)
    else if t.sign = .entry then do
      let (items, rest) ← blockItems fuel t.column (t :: rest)
      return (.arr items, rest)
    else if isName t rest then do
      let (members, rest) ← blockMembers fuel t.column (t :: rest)
      return (mapOf members, rest)
    else flowNode fuel (t :: rest)

/-- Reads the items of which the dashes stand in a column. -/
def blockItems : (fuel column : Nat) → List Token → Option (List Json × List Token)
  | 0, _, _ => none
  | _ + 1, _, [] => some ([], [])
  | fuel + 1, column, t :: rest =>
    if t.sign = .entry ∧ t.column = column then do
      let (v, rest) ← blockNode fuel (column + 1) rest
      let (items, rest) ← blockItems fuel column rest
      return (v :: items, rest)
    else some ([], t :: rest)

/-- Reads the members of which the names stand in a column. -/
def blockMembers : (fuel column : Nat) → List Token → Option (List (String × Json) × List Token)
  | 0, _, _ => none
  | _ + 1, _, [] => some ([], [])
  | fuel + 1, column, t :: rest =>
    if isName t rest ∧ t.column = column then do
      let name ← t.sign.scalar?
      let (v, rest) ← blockMember fuel column t.line (rest.drop 1)
      let (members, rest) ← blockMembers fuel column rest
      return ((String.ofList name, v) :: members, rest)
    else some ([], t :: rest)

/-- Reads the value of a member, whose name and colon stand in a line and begin in a column. In
that line there can only be a scalar or a bracket. -/
def blockMember : (fuel column line : Nat) → List Token → Option (Json × List Token)
  | 0, _, _, _ => none
  | _ + 1, _, _, [] => some (.null, [])
  | fuel + 1, column, line, t :: rest =>
    if t.line = line then
      if isName t rest then none else flowNode fuel (t :: rest)
    else if t.sign = .entry ∧ t.column = column then do
      let (items, rest) ← blockItems fuel column (t :: rest)
      return (.arr items, rest)
    else blockNode fuel (column + 1) (t :: rest)

end

/-- Drops the mark of the beginning of a document. -/
def dropDocumentMark : List Token → List Token
  | t :: rest => if t.sign = .plain "---".toList ∧ t.column = 0 then rest else t :: rest
  | [] => []

/-- Reads the tokens of a document. Without any the document has no members. -/
def ofTokens? (ts : List Token) : Option Json :=
  match dropDocumentMark ts with
  | [] => some (.obj [])
  | ts =>
    match blockNode (4 * ts.length + 4) 0 ts with
    | some (.obj members, []) => some (.obj members)
    | _ => none

/-- Reads a text that holds a map. -/
def ofText? (s : String) : Option Json := (tokens? s.toList).bind ofTokens?

end Yaml

end RelationalCatalog
