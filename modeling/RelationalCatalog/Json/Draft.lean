import RelationalCatalog.Json.Basic

/-!
# Drafts: texts read from left to right

A text that should hold a JSON value may stop being JSON somewhere, and a value may be of a form
that its reader does not want. The first of these problems in the order of the text is the one
that is reported. A `Draft` keeps what is needed for that: it is a JSON value with its faults
left in place, each where a reader coming from the left meets it.

What lies in a member that nobody asks for is only skipped over. Skipping checks the brackets
and tokens but not what they stand for, so a number beyond all bounds or half a surrogate pair
can be skipped though it cannot be read. A fault therefore says both what reading and what
skipping makes of it.
-/

namespace RelationalCatalog

/-- The ways in which a text fails to be JSON. -/
inductive Fault
  /-- A character that cannot stand where it stands. -/
  | malformed
  /-- The text ends too early. -/
  | cutOff
deriving DecidableEq

/-- How the items or members of a draft end. -/
inductive Ending
  /-- With their bracket. -/
  | closed
  /-- With the last of a number of items that was known beforehand. -/
  | counted
  /-- As items that nobody counts: what exceeds the wanted ones is left aside. -/
  | uncounted
  /-- At a fault; one that can be skipped has no second part. -/
  | broken (read : Fault) (skip : Option Fault)
deriving DecidableEq

/-- A JSON value, or as much of one as there is. -/
inductive Draft
  | null
  | bool (b : Bool)
  | int (n : Int)
  | float (x : Binary64)
  | str (s : String)
  | arr (items : List Draft) (ending : Ending)
  | obj (members : List (String × Draft)) (ending : Ending)
  /-- No value: what reading it and what skipping it runs into. -/
  | fault (read : Fault) (skip : Option Fault)

/-- What reading on at an ending runs into. -/
def Ending.readFault? : Ending → Option Fault
  | .broken f _ => some f
  | _ => none

/-- What skipping over an ending runs into. -/
def Ending.skipFault? : Ending → Option Fault
  | .broken _ f => f
  | _ => none

namespace Draft

instance : Inhabited Draft := ⟨.null⟩

/-- A fault that stops readers of both kinds alike. -/
def stop (f : Fault) : Draft := .fault f (some f)

mutual

/-- The first fault that skipping over the draft runs into. -/
def skipFault? : Draft → Option Fault
  | .fault _ f => f
  | .arr items e => (itemsSkipFault? items).or e.skipFault?
  | .obj members e => (membersSkipFault? members).or e.skipFault?
  | _ => none

/-- The first fault that skipping over the items runs into. -/
def itemsSkipFault? : List Draft → Option Fault
  | [] => none
  | d :: rest => (skipFault? d).or (itemsSkipFault? rest)

/-- The first fault that skipping over the members runs into. -/
def membersSkipFault? : List (String × Draft) → Option Fault
  | [] => none
  | (_, d) :: rest => (skipFault? d).or (membersSkipFault? rest)

end

mutual

/-- The value of a draft that is read from end to end, repeated members included. -/
def toJson : Draft → Except Fault Json
  | .null => .ok .null
  | .bool b => .ok (.bool b)
  | .int n => .ok (.int n)
  | .float x => .ok (.float x)
  | .str s => .ok (.str s)
  | .fault f _ => .error f
  | .arr items e => do
    let values ← toJsonItems items
    match e.readFault? with
    | some f => .error f
    | none => .ok (.arr values)
  | .obj members e => do
    let values ← toJsonMembers members
    match e.readFault? with
    | some f => .error f
    | none => .ok (.obj values)

/-- The values of items that are read from end to end. -/
def toJsonItems : List Draft → Except Fault (List Json)
  | [] => .ok []
  | d :: rest => do
    let v ← toJson d
    let values ← toJsonItems rest
    .ok (v :: values)

/-- The values of members that are read from end to end. -/
def toJsonMembers : List (String × Draft) → Except Fault (List (String × Json))
  | [] => .ok []
  | (n, d) :: rest => do
    let v ← toJson d
    let values ← toJsonMembers rest
    .ok ((n, v) :: values)

end

end Draft

namespace Json

mutual

/-- The draft of a value: there is no fault in it, and its items end as `e` says. -/
def toDraft (e : Ending) : Json → Draft
  | .null => .null
  | .bool b => .bool b
  | .int n => .int n
  | .float x => .float x
  | .str s => .str s
  | .arr items => .arr (toDraftItems e items) e
  | .obj members => .obj (toDraftMembers e members) e

/-- The drafts of the items. -/
def toDraftItems (e : Ending) : List Json → List Draft
  | [] => []
  | v :: rest => toDraft e v :: toDraftItems e rest

/-- The drafts of the members. -/
def toDraftMembers (e : Ending) : List (String × Json) → List (String × Draft)
  | [] => []
  | (n, v) :: rest => (n, toDraft e v) :: toDraftMembers e rest

end

/-- The draft of a value at hand, whose items can be counted. -/
def draft (v : Json) : Draft := v.toDraft .counted

end Json

end RelationalCatalog
