import RelationalCatalog.Entity.Basic

/-!
# Entities in JSON

An entity is an object of its identifier, its type name, its properties and its classifications;
the last two may be left out. A classification is an object of its name. Of a property that is
given twice the last value counts.
-/

namespace RelationalCatalog

/-- The form of a classification in JSON; it has a name and nothing else. -/
def classificationLayout : Layout where
  title := "ClassificationRef"
  Field := Unit
  fields := [()]
  label _ := "name"
  Value _ := String
  decode _ := Decode.text
  absence _ := .refused
  unlisted := .skipped
  positional := true

/-- Decodes a classification. -/
def decodeClassification (d : Draft) : Decoded String := do
  let r ← classificationLayout.read d
  r.take ()

/-- A classification as JSON. -/
def classificationJson (name : String) : Json := .obj [("name", .str name)]

namespace Entity

/-- The fields of an entity. -/
inductive Field
  | guid
  | typeName
  | properties
  | classifications
deriving DecidableEq

/-- The form of an entity in JSON. -/
def layout : Layout where
  title := "GenericEntity"
  Field := Field
  fields := [.guid, .typeName, .properties, .classifications]
  label
    | .guid => "guid"
    | .typeName => "typeName"
    | .properties => "properties"
    | .classifications => "classifications"
  Value
    | .guid => String
    | .typeName => String
    | .properties => SortedMap Property
    | .classifications => NameSet
  decode
    | .guid => Decode.text
    | .typeName => Decode.text
    | .properties => fun d => (Decode.map Property.decode d).map SortedMap.ofList
    | .classifications => fun d => (Decode.list decodeClassification d).map NameSet.ofList
  absence
    | .guid => .refused
    | .typeName => .refused
    | .properties => .anywhere .empty
    | .classifications => .anywhere .empty
  unlisted := .skipped
  positional := true

/-- Decodes an entity. -/
def decode (d : Draft) : Decoded Entity := do
  let r ← layout.read d
  return {
    guid := ← r.take Field.guid
    typeName := ← r.take Field.typeName
    properties := ← r.take Field.properties
    classifications := ← r.take Field.classifications }

/-- An entity as JSON. -/
def toJson (e : Entity) : Json :=
  .obj [("guid", .str e.guid), ("typeName", .str e.typeName),
    ("properties", .obj (e.properties.entries.map (fun p => (p.1, p.2.toJson)))),
    ("classifications", .arr (e.classificationNames.map classificationJson))]

/-- The written form of an entity. -/
def render (e : Entity) : String := e.toJson.render

end Entity

end RelationalCatalog
