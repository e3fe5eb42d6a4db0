import RelationalCatalog.Bean.Basic
import RelationalCatalog.Text.Percent

/-!
# Routes of the catalog

Every route names the user who calls. There is one route for the supported types and for each
kind of bean one for a listing and one for a single element, and each stands for an action.
Routes are matched by the path as it was sent; only then the parts that vary are decoded. The
user may be empty, the identifier of an element may not.
-/

namespace RelationalCatalog

/-- What a request can ask the catalog for. -/
inductive Action
  | listSupportedTypes
  | get (k : BeanKind)
  | find (k : BeanKind)
deriving DecidableEq

/-- The name of an action. -/
def Action.name : Action → String
  | .listSupportedTypes => "listSupportedTypes"
  | .get .table => "getTable"
  | .get .column => "getColumn"
  | .get .schema => "getSchema"
  | .find .table => "findTables"
  | .find .column => "findColumns"
  | .find .schema => "findSchemas"

/-- The kind of bean whose listing is at a part of a path. -/
def BeanKind.ofCollection? (part : List Char) : Option BeanKind :=
  if part = "tables".toList then some .table
  else if part = "columns".toList then some .column
  else if part = "schemas".toList then some .schema
  else none

/-- A route, with the parts of the path that vary as they were sent. -/
inductive Route
  | supportedTypes (user : List Char)
  | listing (k : BeanKind) (user : List Char)
  | element (k : BeanKind) (user guid : List Char)
deriving DecidableEq

namespace Route

/-- The action of a route. -/
def action : Route → Action
  | .supportedTypes _ => .listSupportedTypes
  | .listing k _ => .find k
  | .element k _ _ => .get k

/-- The route of the parts behind those that all routes begin with. -/
def ofParts? : List (List Char) → Option Route
  | [user, collection] =>
    if collection = "supported-types".toList then some (.supportedTypes user)
    else (BeanKind.ofCollection? collection).map (fun k => .listing k user)
  | [user, collection, guid] =>
    if guid.isEmpty then none
    else (BeanKind.ofCollection? collection).map (fun k => .element k user guid)
  | _ => none

/-- The parts that all routes begin with. -/
def basePath : List (List Char) :=
  [[], "metadata-catalog".toList, "v1".toList, "users".toList]

/-- The route of a path. -/
def ofPath? (path : List Char) : Option Route :=
  let parts := splitAll '/' path
  if basePath.isPrefixOf parts then ofParts? (parts.drop basePath.length) else none

end Route

end RelationalCatalog
