import RelationalCatalog.Bean.Basic
import RelationalCatalog.Json.Record

/-!
# Elements of answers

An answer shows a bean as an element, which has a field for each of the bean's. It is written as
an object, and fields without a value are left out. An element can be read back; its sort order is
then any text, as other programs may know more of them.
-/

namespace RelationalCatalog

/-- The member of a field, if the field has a value. -/
def optionalMember {α : Type} (name : String) (toJson : α → Json) (value : Option α) :
    List (String × Json) :=
  match value with
  | some a => [(name, toJson a)]
  | none => []

/-- An instant as JSON. -/
def Instant.toJson (t : Instant) : Json := .str t.render

/-- Decodes an instant; its form may be relaxed. -/
def Instant.decode : Draft → Decoded Instant
  | .str s =>
    match Instant.relaxed s with
    | .ok t => .ok t
    | .error fault => .error (.mismatch (.refused fault.message))
  | d => .error (Decode.unexpected "an RFC 3339 formatted date and time string" d)

/-- A table as answers show it. -/
structure TableElement where
  guid : String
  qualifiedName : String
  displayName : String
  description : Option String
  owner : Option String
  createTime : Option Instant
  isDeprecated : Bool
  classifications : List String
deriving DecidableEq

/-- The element that shows a table. -/
def Table.element (t : Table) : TableElement where
  guid := t.guid
  qualifiedName := t.qualifiedName
  displayName := t.displayName
  description := t.description
  owner := t.owner
  createTime := t.createTime
  isDeprecated := t.isDeprecated
  classifications := t.classifications

namespace TableElement

/-- The fields of a table. -/
inductive Field
  | guid
  | qualifiedName
  | displayName
  | description
  | owner
  | createTime
  | isDeprecated
  | classifications
deriving DecidableEq

/-- The form of a table in JSON. -/
def layout : Layout where
  title := "RelationalTableDto"
  Field := Field
  fields := [.guid, .qualifiedName, .displayName, .description, .owner, .createTime,
    .isDeprecated, .classifications]
  label
    | .guid => "guid"
    | .qualifiedName => "qualifiedName"
    | .displayName => "displayName"
    | .description => "description"
    | .owner => "owner"
    | .createTime => "createTime"
    | .isDeprecated => "isDeprecated"
    | .classifications => "classifications"
  Value
    | .guid => String
    | .qualifiedName => String
    | .displayName => String
    | .description => Option String
    | .owner => Option String
    | .createTime => Option Instant
    | .isDeprecated => Bool
    | .classifications => List String
  decode
    | .guid => Decode.text
    | .qualifiedName => Decode.text
    | .displayName => Decode.text
    | .description => Decode.optional Decode.text
    | .owner => Decode.optional Decode.text
    | .createTime => Decode.optional Instant.decode
    | .isDeprecated => Decode.boolean
    | .classifications => Decode.list Decode.text
  absence
    | .guid => .refused
    | .qualifiedName => .refused
    | .displayName => .refused
    | .description => .anywhere none
    | .owner => .anywhere none
    | .createTime => .anywhere none
    | .isDeprecated => .refused
    | .classifications => .anywhere []
  unlisted := .skipped
  positional := true

/-- Decodes a table. -/
def decode (d : Draft) : Decoded TableElement := do
  let r ← layout.read d
  return {
    guid := ← r.take Field.guid
    qualifiedName := ← r.take Field.qualifiedName
    displayName := ← r.take Field.displayName
    description := ← r.take Field.description
    owner := ← r.take Field.owner
    createTime := ← r.take Field.createTime
    isDeprecated := ← r.take Field.isDeprecated
    classifications := ← r.take Field.classifications }

/-- A table as JSON. -/
def toJson (t : TableElement) : Json :=
  .obj ([("guid", .str t.guid), ("qualifiedName", .str t.qualifiedName),
      ("displayName", .str t.displayName)]
    ++ optionalMember "description" Json.str t.description
    ++ optionalMember "owner" Json.str t.owner
    ++ optionalMember "createTime" Instant.toJson t.createTime
    ++ [("isDeprecated", .bool t.isDeprecated), ("classifications", .ofTexts t.classifications)])

end TableElement

/-- A column as answers show it. -/
structure ColumnElement where
  guid : String
  qualifiedName : String
  displayName : String
  dataType : String
  position : Int64
  length : Int64
  isNullable : Bool
  /-- The symbol of the sort order. -/
  sortOrder : String
  isPrimaryKey : Bool
  classifications : List String
deriving DecidableEq

/-- The element that shows a column. -/
def Column.element (c : Column) : ColumnElement where
  guid := c.guid
  qualifiedName := c.qualifiedName
  displayName := c.displayName
  dataType := c.dataType
  position := c.position
  length := c.length
  isNullable := c.isNullable
  sortOrder := c.sortOrder.symbol
  isPrimaryKey := c.isPrimaryKey
  classifications := c.classifications

namespace ColumnElement

/-- The fields of a column. -/
inductive Field
  | guid
  | qualifiedName
  | displayName
  | dataType
  | position
  | length
  | isNullable
  | sortOrder
  | isPrimaryKey
  | classifications
deriving DecidableEq

/-- The form of a column in JSON. -/
def layout : Layout where
  title := "RelationalColumnDto"
  Field := Field
  fields := [.guid, .qualifiedName, .displayName, .dataType, .position, .length, .isNullable,
    .sortOrder, .isPrimaryKey, .classifications]
  label
    | .guid => "guid"
    | .qualifiedName => "qualifiedName"
    | .displayName => "displayName"
    | .dataType => "dataType"
    | .position => "position"
    | .length => "length"
    | .isNullable => "isNullable"
    | .sortOrder => "sortOrder"
    | .isPrimaryKey => "isPrimaryKey"
    | .classifications => "classifications"
  Value
    | .guid => String
    | .qualifiedName => String
    | .displayName => String
    | .dataType => String
    | .position => Int64
    | .length => Int64
    | .isNullable => Bool
    | .sortOrder => String
    | .isPrimaryKey => Bool
    | .classifications => List String
  decode
    | .guid => Decode.text
    | .qualifiedName => Decode.text
    | .displayName => Decode.text
    | .dataType => Decode.text
    | .position => Decode.int64
    | .length => Decode.int64
    | .isNullable => Decode.boolean
    | .sortOrder => Decode.text
    | .isPrimaryKey => Decode.boolean
    | .classifications => Decode.list Decode.text
  absence
    | .guid => .refused
    | .qualifiedName => .refused
    | .displayName => .refused
    | .dataType => .refused
    | .position => .refused
    | .length => .refused
    | .isNullable => .refused
    | .sortOrder => .refused
    | .isPrimaryKey => .refused
    | .classifications => .anywhere []
  unlisted := .skipped
  positional := true

/-- Decodes a column. -/
def decode (d : Draft) : Decoded ColumnElement := do
  let r ← layout.read d
  return {
    guid := ← r.take Field.guid
    qualifiedName := ← r.take Field.qualifiedName
    displayName := ← r.take Field.displayName
    dataType := ← r.take Field.dataType
    position := ← r.take Field.position
    length := ← r.take Field.length
    isNullable := ← r.take Field.isNullable
    sortOrder := ← r.take Field.sortOrder
    isPrimaryKey := ← r.take Field.isPrimaryKey
    classifications := ← r.take Field.classifications }

/-- A column as JSON. -/
def toJson (c : ColumnElement) : Json :=
  .obj [("guid", .str c.guid), ("qualifiedName", .str c.qualifiedName),
    ("displayName", .str c.displayName), ("dataType", .str c.dataType),
    ("position", .int c.position.toInt), ("length", .int c.length.toInt),
    ("isNullable", .bool c.isNullable), ("sortOrder", .str c.sortOrder),
    ("isPrimaryKey", .bool c.isPrimaryKey), ("classifications", .ofTexts c.classifications)]

end ColumnElement

/-- A schema as answers show it. -/
structure SchemaElement where
  guid : String
  qualifiedName : String
  displayName : String
  description : Option String
  createTime : Option Instant
  classifications : List String
deriving DecidableEq

/-- The element that shows a schema. -/
def Schema.element (s : Schema) : SchemaElement where
  guid := s.guid
  qualifiedName := s.qualifiedName
  displayName := s.displayName
  description := s.description
  createTime := s.createTime
  classifications := s.classifications

namespace SchemaElement

/-- The fields of a schema. -/
inductive Field
  | guid
  | qualifiedName
  | displayName
  | description
  | createTime
  | classifications
deriving DecidableEq

/-- The form of a schema in JSON. -/
def layout : Layout where
  title := "RelationalSchemaDto"
  Field := Field
  fields := [.guid, .qualifiedName, .displayName, .description, .createTime, .classifications]
  label
    | .guid => "guid"
    | .qualifiedName => "qualifiedName"
    | .displayName => "displayName"
    | .description => "description"
    | .createTime => "createTime"
    | .classifications => "classifications"
  Value
    | .guid => String
    | .qualifiedName => String
    | .displayName => String
    | .description => Option String
    | .createTime => Option Instant
    | .classifications => List String
  decode
    | .guid => Decode.text
    | .qualifiedName => Decode.text
    | .displayName => Decode.text
    | .description => Decode.optional Decode.text
    | .createTime => Decode.optional Instant.decode
    | .classifications => Decode.list Decode.text
  absence
    | .guid => .refused
    | .qualifiedName => .refused
    | .displayName => .refused
    | .description => .anywhere none
    | .createTime => .anywhere none
    | .classifications => .anywhere []
  unlisted := .skipped
  positional := true

/-- Decodes a schema. -/
def decode (d : Draft) : Decoded SchemaElement := do
  let r ← layout.read d
  return {
    guid := ← r.take Field.guid
    qualifiedName := ← r.take Field.qualifiedName
    displayName := ← r.take Field.displayName
    description := ← r.take Field.description
    createTime := ← r.take Field.createTime
    classifications := ← r.take Field.classifications }

/-- A schema as JSON. -/
def toJson (s : SchemaElement) : Json :=
  .obj ([("guid", .str s.guid), ("qualifiedName", .str s.qualifiedName),
      ("displayName", .str s.displayName)]
    ++ optionalMember "description" Json.str s.description
    ++ optionalMember "createTime" Instant.toJson s.createTime
    ++ [("classifications", .ofTexts s.classifications)])

end SchemaElement

/-- The JSON form of a type of values. -/
structure WireForm (α : Type) where
  /-- Reads a value. -/
  decode : Draft → Decoded α
  /-- Writes a value. -/
  toJson : α → Json

namespace BeanKind

/-- The elements that show the beans of a kind. -/
def Element : BeanKind → Type
  | .table => TableElement
  | .column => ColumnElement
  | .schema => SchemaElement

/-- The element that shows a bean. -/
def element : (k : BeanKind) → k.Bean → k.Element
  | .table => Table.element
  | .column => Column.element
  | .schema => Schema.element

/-- The JSON form of the elements of a kind. -/
def wireForm : (k : BeanKind) → WireForm k.Element
  | .table => ⟨TableElement.decode, TableElement.toJson⟩
  | .column => ⟨ColumnElement.decode, ColumnElement.toJson⟩
  | .schema => ⟨SchemaElement.decode, SchemaElement.toJson⟩

end BeanKind

end RelationalCatalog
