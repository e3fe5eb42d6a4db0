import RelationalCatalog.Entity.Wire
import RelationalCatalog.Types.Registry

/-!
# Settings of the catalog

The settings name the types that can be searched for, the entities that the store starts with,
the page sizes, the users who may call, and whether the status of a response shows failures. All
of them have defaults. In JSON a member that is no setting is refused, so a misspelt one does
not go unnoticed.
-/

namespace RelationalCatalog

/-- The settings of the catalog. -/
structure Settings where
  /-- The types that can be searched for; none stand for the built-in ones. -/
  types : List TypeDescriptor
  /-- The entities at the start. -/
  entities : List Entity
  /-- The page size of a request that names none. -/
  defaultPageSize : UInt64
  /-- The largest page size of a request. -/
  maxPageSize : UInt64
  /-- The users who may call; without a list everybody may. -/
  authorizedUsers : Option (List String)
  /-- Whether the status of a response is the code of its envelope. -/
  statusFollowsCode : Bool

namespace Settings

/-- The settings of a catalog that is given none. -/
def default : Settings where
  types := []
  entities := []
  defaultPageSize := 25
  maxPageSize := 500
  authorizedUsers := none
  statusFollowsCode := true

instance : Inhabited Settings := ⟨default⟩

end Settings

/-- Why page sizes are not accepted. -/
inductive PageSizeFault
  /-- The largest one is zero. -/
  | maxNotPositive
  /-- The default one is zero. -/
  | defaultNotPositive
  /-- The default one is above the largest. -/
  | defaultAboveMax (default max : UInt64)
deriving DecidableEq

/-- The wording of a fault. -/
def PageSizeFault.message : PageSizeFault → String
  | .maxNotPositive => "max_page_size must be positive"
  | .defaultNotPositive => "default_page_size must be positive"
  | .defaultAboveMax default max =>
    s!"default_page_size ({intText default.toNat}) must not exceed max_page_size " ++
      s!"({intText max.toNat})"

namespace Settings

/-- The first fault of the page sizes. -/
def pageSizeFault? (s : Settings) : Option PageSizeFault :=
  if s.maxPageSize = 0 then some .maxNotPositive
  else if s.defaultPageSize = 0 then some .defaultNotPositive
  else if s.maxPageSize < s.defaultPageSize then
    some (.defaultAboveMax s.defaultPageSize s.maxPageSize)
  else none

/-- The registry of the settings: the built-in one if they name no type. -/
def registry (s : Settings) : Except RegistryError TypeRegistry :=
  if s.types.isEmpty then .ok TypeRegistry.builtin else TypeRegistry.ofDescriptors s.types

end Settings

namespace TypeDescriptor

/-- The fields of a type in the settings. -/
inductive Field
  | name
  | description
  | superTypes
deriving DecidableEq

/-- The form of a type in the settings. -/
def layout : Layout where
  title := "TypeDescriptorConfig"
  Field := Field
  fields := [.name, .description, .superTypes]
  label
    | .name => "name"
    | .description => "description"
    | .superTypes => "super_types"
  Value
    | .name => String
    | .description => String
    | .superTypes => List String
  decode
    | .name => Decode.text
    | .description => Decode.text
    | .superTypes => Decode.list Decode.text
  absence
    | .name => .refused
    | .description => .anywhere ""
    | .superTypes => .anywhere []
  unlisted := .refused
  positional := true

/-- Decodes a type of the settings. -/
def decode (d : Draft) : Decoded TypeDescriptor := do
  let r ← layout.read d
  return {
    name := ← r.take Field.name
    description := ← r.take Field.description
    superTypeNames := ← r.take Field.superTypes }

/-- A type as it stands in the settings. -/
def toSettingsJson (d : TypeDescriptor) : Json :=
  .obj [("name", .str d.name), ("description", .str d.description),
    ("super_types", .ofTexts d.superTypeNames)]

end TypeDescriptor

namespace Settings

/-- The fields of the settings. -/
inductive Field
  | types
  | entities
  | defaultPageSize
  | maxPageSize
  | authorizedUsers
  | statusFollowsCode
deriving DecidableEq

/-- The form of the settings in JSON. -/
def layout : Layout where
  title := "MetadataCatalogConfig"
  Field := Field
  fields :=
    [.types, .entities, .defaultPageSize, .maxPageSize, .authorizedUsers, .statusFollowsCode]
  label
    | .types => "types"
    | .entities => "entities"
    | .defaultPageSize => "default_page_size"
    | .maxPageSize => "max_page_size"
    | .authorizedUsers => "authorized_users"
    | .statusFollowsCode => "mirror_http_status"
  Value
    | .types => List TypeDescriptor
    | .entities => List Entity
    | .defaultPageSize => UInt64
    | .maxPageSize => UInt64
    | .authorizedUsers => Option (List String)
    | .statusFollowsCode => Bool
  decode
    | .types => Decode.list TypeDescriptor.decode
    | .entities => Decode.list Entity.decode
    | .defaultPageSize => Decode.uint64
    | .maxPageSize => Decode.uint64
    | .authorizedUsers => Decode.optional (Decode.list Decode.text)
    | .statusFollowsCode => Decode.boolean
  absence
    | .types => .anywhere default.types
    | .entities => .anywhere default.entities
    | .defaultPageSize => .anywhere default.defaultPageSize
    | .maxPageSize => .anywhere default.maxPageSize
    | .authorizedUsers => .anywhere default.authorizedUsers
    | .statusFollowsCode => .anywhere default.statusFollowsCode
  unlisted := .refused
  positional := true

/-- Decodes the settings. -/
def decode (d : Draft) : Decoded Settings := do
  let r ← layout.read d
  return {
    types := ← r.take Field.types
    entities := ← r.take Field.entities
    defaultPageSize := ← r.take Field.defaultPageSize
    maxPageSize := ← r.take Field.maxPageSize
    authorizedUsers := ← r.take Field.authorizedUsers
    statusFollowsCode := ← r.take Field.statusFollowsCode }

/-- The settings as JSON. -/
def toJson (s : Settings) : Json :=
  .obj [("types", .arr (s.types.map TypeDescriptor.toSettingsJson)),
    ("entities", .arr (s.entities.map Entity.toJson)),
    ("default_page_size", .int s.defaultPageSize.toNat),
    ("max_page_size", .int s.maxPageSize.toNat),
    ("authorized_users", match s.authorizedUsers with
      | some users => .ofTexts users
      | none => .null),
    ("mirror_http_status", .bool s.statusFollowsCode)]

end Settings

end RelationalCatalog
