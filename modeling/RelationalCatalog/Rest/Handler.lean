import RelationalCatalog.Http.Message
import RelationalCatalog.Rest.Envelope
import RelationalCatalog.Rest.Query
import RelationalCatalog.Rest.Route

/-!
# Answering requests

Every route answers with an envelope, also when its path or its query cannot be read. The checks
have a fixed order: the path is decoded, the user is admitted, and only then the query is read
and the service is asked. So a user who is not admitted learns nothing of the rest.
-/

namespace RelationalCatalog

/-- Decodes a part of a path, which has a name in messages. -/
def decodePart (name : String) (part : List Char) : Except ServiceError String :=
  match percentText? part with
  | some text => .ok text
  | none => .error (.invalidPath s!"Invalid URL: Invalid UTF-8 in `{name}`")

/-- A part whose bytes are UTF-8 decodes to their text. -/
theorem decodePart_of_percentText? {name text : String} {part : List Char}
    (h : percentText? part = some text) : decodePart name part = .ok text := by
  rw [decodePart, h]

/-- Decodes the user of a path. -/
def decodeUser (part : List Char) : Except ServiceError String := decodePart "user_id" part

/-- Decodes the identifier of a path. -/
def decodeGuid (part : List Char) : Except ServiceError String := decodePart "guid" part

namespace Service

/-- The envelope of an answer to an action. -/
def enclose {P : Type} (action : Action) (answer : Except ServiceError P) : Envelope P :=
  (Envelope.ofClient (asSeenByClients answer)).withAction action.name

/-- Answers with the supported types. -/
def answerTypes (s : Service) (user : List Char) : Envelope SupportedTypes :=
  enclose .listSupportedTypes do
    let user ← decodeUser user
    s.checkAccess user Action.listSupportedTypes.name
    return .ofTypes s.supportedTypes

/-- Answers with one element. -/
def answerElement (s : Service) (k : BeanKind) (user guid : List Char) :
    Envelope (SingleElement k.Element) :=
  enclose (.get k) do
    let user ← decodeUser user
    let guid ← decodeGuid guid
    s.checkAccess user (Action.get k).name
    let bean ← s.getBean k.mapping guid
    return ⟨k.element bean⟩

/-- The page that a query asks for. -/
def readPage (query : List Char) : Except ServiceError PageRequest :=
  match PagingQuery.ofQuery query with
  | .ok q => .ok q.page
  | .error fault => .error (.invalidPaging fault.message)

/-- Answers with a page of elements. -/
def answerListing (s : Service) (k : BeanKind) (user query : List Char) :
    Envelope (ElementList k.Element) :=
  enclose (.find k) do
    let user ← decodeUser user
    s.checkAccess user (Action.find k).name
    let request ← readPage query
    let page ← s.listBeans k.mapping request
    return ElementList.ofPage k page

end Service

/-- How envelopes become responses. -/
structure ResponseOptions where
  /-- Whether the status is the code of the envelope; otherwise it is that of a success. -/
  statusFollowsCode : Bool
deriving DecidableEq

namespace ResponseOptions

/-- The options of a catalog that is given none. -/
def default : ResponseOptions := ⟨true⟩

instance : Inhabited ResponseOptions := ⟨default⟩

/-- The response of an envelope. -/
def respond {P : Type} (options : ResponseOptions) (form : PayloadForm P) (e : Envelope P) :
    Http.Response :=
  .ofBody (if options.statusFollowsCode then Http.statusOfCode e.code else successCode)
    "application/json" (e.render form)

end ResponseOptions

/-- A catalog that answers requests. -/
structure Catalog where
  /-- The service behind the answers. -/
  service : Service
  /-- How answers become responses. -/
  options : ResponseOptions

/-- Why settings are not accepted. -/
inductive SettingsFault
  /-- The page sizes are not. -/
  | pageSize (fault : PageSizeFault)
  /-- The types are not. -/
  | types (error : RegistryError)
deriving DecidableEq

/-- The report of a fault. -/
def SettingsFault.report : SettingsFault → Report
  | .pageSize fault =>
    (Report.ofCause fault.message).within "invalid metadata_catalog configuration"
  | .types error =>
    (Report.ofCause error.message).within "invalid metadata_catalog type catalog"

namespace Catalog

/-- The catalog of a service made from the parts of the settings. -/
def ofParts (settings : Settings) (registry : TypeRegistry) (repository : Repository) :
    Catalog where
  service := ⟨registry, repository, settings.service⟩
  options := ⟨settings.statusFollowsCode⟩

/-- The catalog of settings and a repository. -/
def ofSettings (settings : Settings) (repository : Repository) : Except SettingsFault Catalog :=
  match settings.pageSizeFault? with
  | some fault => .error (.pageSize fault)
  | none =>
    match settings.registry with
    | .error error => .error (.types error)
    | .ok registry => .ok (ofParts settings registry repository)

/-- The store of the entities that settings name. -/
def initialStore (settings : Settings) : EntityStore := .ofList settings.entities

/-- The catalog of settings, with a store of the entities that they name. -/
def init (settings : Settings) : Except SettingsFault Catalog :=
  ofSettings settings (initialStore settings).repository

/-- The catalog as clients inside the program see it. -/
def client (c : Catalog) : Client := ⟨c.service⟩

/-- The response of a route, asked with a query. -/
def respond (c : Catalog) (query : List Char) : Route → Http.Response
  | .supportedTypes user =>
    c.options.respond SupportedTypes.payloadForm (c.service.answerTypes user)
  | .element k user guid =>
    c.options.respond (SingleElement.payloadForm k.wireForm) (c.service.answerElement k user guid)
  | .listing k user =>
    c.options.respond (ElementList.payloadForm k.wireForm) (c.service.answerListing k user query)

/-- The response to a request. -/
def handle (c : Catalog) (r : Http.Request) : Http.Response :=
  match Route.ofPath? r.path with
  | some route => r.answer (c.respond r.query route)
  | none => .notFound

end Catalog

end RelationalCatalog
