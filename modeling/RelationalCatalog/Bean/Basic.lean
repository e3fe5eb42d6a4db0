import RelationalCatalog.Attribute.Mapping
import RelationalCatalog.Bean.SortOrder

/-!
# Beans

The catalog shows entities as beans of three kinds: tables, columns and schemas of relational
databases. A `Mapping` says how a bean is made: the type that its entities must count as, the
table of their attributes, and the assembly of the bean from the header and the attributes of an
entity.
-/

namespace RelationalCatalog

/-- A table of a relational database. -/
structure Table where
  guid : String
  qualifiedName : String
  displayName : String
  description : Option String
  owner : Option String
  createTime : Option Instant
  isDeprecated : Bool
  classifications : List String
deriving DecidableEq

/-- A column of a table. -/
structure Column where
  guid : String
  qualifiedName : String
  displayName : String
  dataType : String
  position : Int64
  length : Int64
  isNullable : Bool
  sortOrder : SortOrder
  isPrimaryKey : Bool
  classifications : List String
deriving DecidableEq

/-- A schema of a relational database. -/
structure Schema where
  guid : String
  qualifiedName : String
  displayName : String
  description : Option String
  createTime : Option Instant
  classifications : List String
deriving DecidableEq

/-- How beans are made from entities. -/
structure Mapping (β : Type) where
  /-- The type that the entities must count as. -/
  typeName : String
  /-- The attributes of the entities. -/
  attributes : List AttributeSpec
  /-- Makes the bean, taking its attributes out of the set. -/
  assemble : EntityHeader → StateM Attributes β

/-- The classification of columns that belong to the primary key. -/
def primaryKeyClassification : String := "PrimaryKey"

/-- How tables are made. -/
def Table.mapping : Mapping Table where
  typeName := "RelationalTable"
  attributes := [
    .optional "qualifiedName" .text,
    .needed "displayName" .text,
    .optional "description" .text,
    .optional "owner" .text,
    .optional "createTime" .date,
    .optional "isDeprecated" .bool]
  assemble header := do
    return {
      guid := header.guid
      qualifiedName := ← Attributes.text "qualifiedName"
      displayName := ← Attributes.text "displayName"
      description := ← Attributes.text? "description"
      owner := ← Attributes.text? "owner"
      createTime := ← Attributes.date? "createTime"
      isDeprecated := ← Attributes.boolOr "isDeprecated" false
      classifications := header.classifications }

/-- How columns are made. -/
def Column.mapping : Mapping Column where
  typeName := "RelationalColumn"
  attributes := [
    .optional "qualifiedName" .text,
    .needed "displayName" .text,
    .needed "dataType" .text,
    .optional "position" .int,
    .optional "length" .int,
    .optional "isNullable" .bool,
    .optional "sortOrder" (.symbol SortOrder.symbols)]
  assemble header := do
    return {
      guid := header.guid
      qualifiedName := ← Attributes.text "qualifiedName"
      displayName := ← Attributes.text "displayName"
      dataType := ← Attributes.text "dataType"
      position := ← Attributes.int "position"
      length := ← Attributes.int "length"
      isNullable := ← Attributes.boolOr "isNullable" true
      sortOrder := ((← Attributes.symbol? "sortOrder").bind SortOrder.ofSymbol?).getD .unsorted
      isPrimaryKey := header.hasClassification primaryKeyClassification
      classifications := header.classifications }

/-- How schemas are made. -/
def Schema.mapping : Mapping Schema where
  typeName := "RelationalSchema"
  attributes := [
    .optional "qualifiedName" .text,
    .needed "displayName" .text,
    .optional "description" .text,
    .optional "createTime" .date]
  assemble header := do
    return {
      guid := header.guid
      qualifiedName := ← Attributes.text "qualifiedName"
      displayName := ← Attributes.text "displayName"
      description := ← Attributes.text? "description"
      createTime := ← Attributes.date? "createTime"
      classifications := header.classifications }

/-- The kinds of beans. -/
inductive BeanKind
  | table
  | column
  | schema
deriving DecidableEq

namespace BeanKind

/-- The beans of a kind. -/
def Bean : BeanKind → Type
  | .table => Table
  | .column => Column
  | .schema => Schema

/-- How the beans of a kind are made. -/
def mapping : (k : BeanKind) → Mapping k.Bean
  | .table => Table.mapping
  | .column => Column.mapping
  | .schema => Schema.mapping

end BeanKind

end RelationalCatalog
