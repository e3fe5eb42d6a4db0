import RelationalCatalog.Collection.NameSet
import RelationalCatalog.Entity.Property

/-!
# Entities

An entity is a record of the metadata repository: its identifier and type, a map of properties
and a set of classifications. Both collections are ordered by name, so an entity has one written
form, whatever the order in which it was built.
-/

namespace RelationalCatalog

/-- A typed record of the repository. -/
structure Entity where
  /-- The globally unique identifier. -/
  guid : String
  /-- The name of the entity's type. -/
  typeName : String
  /-- The properties by their names. -/
  properties : SortedMap Property
  /-- The names of the classifications. -/
  classifications : NameSet
deriving DecidableEq

namespace Entity

/-- The entity without properties and classifications. -/
def new (guid typeName : String) : Entity := ⟨guid, typeName, .empty, .empty⟩

/-- The entity with a property set, whatever its value was. -/
def withProperty (e : Entity) (name : String) (value : Property) : Entity :=
  { e with properties := e.properties.insert name value }

/-- The entity with a classification. -/
def withClassification (e : Entity) (name : String) : Entity :=
  { e with classifications := e.classifications.insert name }

/-- The value of a property. -/
def property? (e : Entity) (name : String) : Option Property := e.properties.get? name

/-- Whether the entity has a classification. -/
def hasClassification (e : Entity) (name : String) : Bool := e.classifications.contains name

/-- The names of the classifications in their order. -/
def classificationNames (e : Entity) : List String := e.classifications.names

end Entity

/-- What is known of an entity besides its properties. -/
structure EntityHeader where
  /-- The identifier of the entity. -/
  guid : String
  /-- The name of its type. -/
  typeName : String
  /-- The names of its classifications. -/
  classifications : List String
deriving DecidableEq

/-- The header of an entity. -/
def Entity.header (e : Entity) : EntityHeader :=
  ⟨e.guid, e.typeName, e.classificationNames⟩

/-- Whether a classification is among those of a header. -/
def EntityHeader.hasClassification (h : EntityHeader) (name : String) : Bool :=
  h.classifications.contains name

end RelationalCatalog
