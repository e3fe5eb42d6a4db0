import RelationalCatalog.Number.Binary64

/-!
# JSON values

The members of an object are kept in their order. A number is an integer or a floating-point
number; the two are different values even where they denote the same number.
-/

namespace RelationalCatalog

/-- A JSON value. -/
inductive Json
  | null
  | bool (b : Bool)
  | int (n : Int)
  | float (x : Binary64)
  | str (s : String)
  | arr (items : List Json)
  | obj (members : List (String × Json))

namespace Json

instance : Inhabited Json := ⟨.null⟩

/-- Binds a member: one of that name changes its value and keeps its place, a new one comes
last. -/
def setMember (name : String) (value : Json) : List (String × Json) → List (String × Json)
  | [] => [(name, value)]
  | (n, v) :: rest =>
    if n = name then (n, value) :: rest else (n, v) :: setMember name value rest

mutual

/-- The value with every name once in an object: the last value of a name, at its first
place. -/
def unrepeated : Json → Json
  | .arr items => .arr (unrepeatedItems items)
  | .obj members => .obj (unrepeatedMembers members [])
  | v => v

/-- The items, each without repeated names. -/
def unrepeatedItems : List Json → List Json
  | [] => []
  | v :: rest => unrepeated v :: unrepeatedItems rest

/-- Binds the members, each without repeated names, after those already bound. -/
def unrepeatedMembers : List (String × Json) → List (String × Json) → List (String × Json)
  | [], bound => bound
  | (n, v) :: rest, bound => unrepeatedMembers rest (setMember n (unrepeated v) bound)

end

/-- The value of the first member of a name, if the value is an object with such a member. -/
def member? (v : Json) (name : String) : Option Json :=
  match v with
  | .obj members => (members.find? (fun m => m.1 == name)).map (·.2)
  | _ => none

/-- The array of the texts. -/
def ofTexts (texts : List String) : Json := .arr (texts.map Json.str)

end Json

end RelationalCatalog
