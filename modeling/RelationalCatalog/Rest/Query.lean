import RelationalCatalog.Rest.Payload
import RelationalCatalog.Text.Percent

/-!
# Queries of listings

The query of a listing says which page is wanted. Its fields are taken in their order, fields
that are not known are passed over, and the first problem is reported.
-/

namespace RelationalCatalog

/-- Why the query of a listing cannot be read. -/
inductive QueryFault
  /-- The value of a field is no number. -/
  | number (field : String) (fault : IntegerFault)
  /-- A field is there twice. -/
  | duplicate (field : String)
deriving DecidableEq

/-- The wording of a fault. -/
def QueryFault.message : QueryFault → String
  | .number field fault => s!"Failed to deserialize query string: {field}: {fault.message}"
  | .duplicate field => s!"Failed to deserialize query string: duplicate field `{field}`"

namespace PagingQuery

/-- Reads one field, unless it has been read before. -/
def readField (name value : String) (slot : Option UInt64) : Except QueryFault (Option UInt64) :=
  match slot with
  | some _ => .error (.duplicate name)
  | none =>
    match readUInt64 value with
    | .ok n => .ok (some n)
    | .error fault => .error (.number name fault)

/-- Reads fields behind those already read. -/
def ofFields : List (String × String) → PagingQuery → Except QueryFault PagingQuery
  | [], q => .ok q
  | (name, value) :: rest, q =>
    if name = "startFrom" then do
      let startFrom ← readField name value q.startFrom
      ofFields rest { q with startFrom := startFrom }
    else if name = "pageSize" then do
      let pageSize ← readField name value q.pageSize
      ofFields rest { q with pageSize := pageSize }
    else ofFields rest q

/-- Reads the query of a request. -/
def ofQuery (query : List Char) : Except QueryFault PagingQuery :=
  ofFields (formFields query) empty

end PagingQuery

end RelationalCatalog
