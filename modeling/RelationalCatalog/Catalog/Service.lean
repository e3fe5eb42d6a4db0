import RelationalCatalog.Bean.Conversion
import RelationalCatalog.Catalog.Repository
import RelationalCatalog.Catalog.Settings

/-!
# The service of the catalog

The service reads entities from a repository and converts them. A listing is a window of the
entities whose type counts as the wanted one. Which users may call is asked apart from that, so
a caller inside the program is trusted.

`Client` is the service as clients see it: the same answers, with errors by kind and message.
-/

namespace RelationalCatalog

/-- A request for a window of a listing. -/
structure PageRequest where
  /-- How many elements to pass over. -/
  startFrom : UInt64
  /-- How many elements to take at most; the service has a default. -/
  pageSize : Option UInt64
deriving DecidableEq

/-- A window of a listing, with the page size that was used. -/
structure Page (β : Type) where
  /-- The elements. -/
  elements : List β
  /-- How many elements were passed over. -/
  startFrom : UInt64
  /-- How many elements there could have been. -/
  pageSize : UInt64
deriving DecidableEq

/-- What the service is told about pages and users. -/
structure ServiceSettings where
  /-- The page size of a request that names none. -/
  defaultPageSize : UInt64
  /-- The largest page size of a request. -/
  maxPageSize : UInt64
  /-- The users who may call; without a set everybody may. -/
  authorizedUsers : Option NameSet
deriving DecidableEq

/-- What the settings tell the service. -/
def Settings.service (s : Settings) : ServiceSettings where
  defaultPageSize := s.defaultPageSize
  maxPageSize := s.maxPageSize
  authorizedUsers := s.authorizedUsers.map NameSet.ofList

/-- The service of the catalog. -/
structure Service where
  /-- The types that can be searched for. -/
  registry : TypeRegistry
  /-- Where entities come from. -/
  repository : Repository
  /-- The page sizes and users. -/
  settings : ServiceSettings

/-- A repository's answer as the service's. -/
def liftRepository {α : Type} : Except RepositoryError α → Except ServiceError α
  | .ok a => .ok a
  | .error error => .error (.repository error)

namespace Service

variable {β : Type}

/-- The types that can be searched for, in the order of the registry. -/
def supportedTypes (s : Service) : List TypeDescriptor := s.registry.descriptors

/-- The bean of an identifier. -/
def getBean (s : Service) (m : Mapping β) (guid : String) : Except ServiceError β := do
  let e ← liftRepository (s.repository.fetch guid)
  s.registry.convert m e

/-- The page size that a request gets. -/
def resolvePageSize (s : Service) : Option UInt64 → Except ServiceError UInt64
  | none => .ok s.settings.defaultPageSize
  | some size =>
    if size = 0 then .error (.invalidPaging "pageSize must be positive")
    else if s.settings.maxPageSize < size then
      .error (.invalidPaging (s!"pageSize {intText size.toNat} exceeds the maximum of " ++
        intText s.settings.maxPageSize.toNat))
    else .ok size

/-- A window of the beans. -/
def listBeans (s : Service) (m : Mapping β) (page : PageRequest) :
    Except ServiceError (Page β) := do
  let pageSize ← s.resolvePageSize page.pageSize
  let typeNames := s.registry.assignableTypeNames m.typeName
  let entities ← liftRepository (s.repository.find typeNames page.startFrom pageSize)
  let elements ← s.registry.convertAll m entities
  return ⟨elements, page.startFrom, pageSize⟩

/-- Whether a user may call an action. -/
def checkAccess (s : Service) (user action : String) : Except ServiceError Unit :=
  match s.settings.authorizedUsers with
  | none => .ok ()
  | some users => if users.contains user then .ok () else .error (.unauthorized user action)

end Service

/-- The service as clients see it. -/
structure Client where
  /-- The service behind the client. -/
  service : Service

/-- An answer as clients see it. -/
def asSeenByClients {α : Type} : Except ServiceError α → Except ClientError α
  | .ok a => .ok a
  | .error error => .error error.toClient

namespace Client

/-- The types that can be searched for. -/
def supportedTypes (c : Client) : Except ClientError (List TypeDescriptor) :=
  .ok c.service.supportedTypes

/-- The bean of an identifier. -/
def get (c : Client) (k : BeanKind) (guid : String) : Except ClientError k.Bean :=
  asSeenByClients (c.service.getBean k.mapping guid)

/-- A window of the beans of a kind. -/
def list (c : Client) (k : BeanKind) (page : PageRequest) : Except ClientError (Page k.Bean) :=
  asSeenByClients (c.service.listBeans k.mapping page)

end Client

end RelationalCatalog
