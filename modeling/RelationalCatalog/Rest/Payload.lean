import RelationalCatalog.Catalog.Service
import RelationalCatalog.Rest.Element

/-!
# Payloads of answers

An answer carries the supported types, an element or a page of elements. A payload is written as
members, which stand next to those of the envelope around it.
-/

namespace RelationalCatalog

/-- How the payloads of a type are read and written. -/
structure PayloadForm (P : Type) where
  /-- Reads a payload from an object, whatever else is in it. -/
  decode : Draft → Decoded P
  /-- The members of a payload. -/
  members : P → List (String × Json)

/-- A payload as an object of its own. -/
def PayloadForm.toJson {P : Type} (form : PayloadForm P) (payload : P) : Json :=
  .obj (form.members payload)

/-- A type as answers show it. -/
structure TypeElement where
  name : String
  description : String
  superTypeNames : List String
deriving DecidableEq

/-- The element that shows a type. -/
def TypeDescriptor.element (d : TypeDescriptor) : TypeElement where
  name := d.name
  description := d.description
  superTypeNames := d.superTypeNames

namespace TypeElement

/-- The fields of a type. -/
inductive Field
  | name
  | description
  | superTypeNames
deriving DecidableEq

/-- The form of a type in JSON. -/
def layout : Layout where
  title := "TypeDescriptorDto"
  Field := Field
  fields := [.name, .description, .superTypeNames]
  label
    | .name => "name"
    | .description => "description"
    | .superTypeNames => "superTypeNames"
  Value
    | .name => String
    | .description => String
    | .superTypeNames => List String
  decode
    | .name => Decode.text
    | .description => Decode.text
    | .superTypeNames => Decode.list Decode.text
  absence
    | .name => .refused
    | .description => .refused
    | .superTypeNames => .refused
  unlisted := .skipped
  positional := true

/-- Decodes a type. -/
def decode (d : Draft) : Decoded TypeElement := do
  let r ← layout.read d
  return {
    name := ← r.take Field.name
    description := ← r.take Field.description
    superTypeNames := ← r.take Field.superTypeNames }

/-- The members of a type. -/
def members (t : TypeElement) : List (String × Json) :=
  [("name", .str t.name), ("description", .str t.description),
    ("superTypeNames", .ofTexts t.superTypeNames)]

/-- A type as a payload of its own. -/
def payloadForm : PayloadForm TypeElement := ⟨decode, members⟩

end TypeElement

/-- The payload of the supported types. -/
structure SupportedTypes where
  /-- The types, in the order of the registry. -/
  types : List TypeElement
deriving DecidableEq

namespace SupportedTypes

/-- The form of the payload: its only field are the types. -/
def layout : Layout where
  title := "SupportedTypesPayload"
  Field := Unit
  fields := [()]
  label _ := "types"
  Value _ := List TypeElement
  decode _ := Decode.list TypeElement.decode
  absence _ := .refused
  unlisted := .skipped
  positional := true

/-- Decodes the payload. -/
def decode (d : Draft) : Decoded SupportedTypes := do
  let r ← layout.read d
  return ⟨← r.take ()⟩

/-- The members of the payload. -/
def members (p : SupportedTypes) : List (String × Json) :=
  [("types", .arr (p.types.map (fun t => .obj t.members)))]

/-- How the payload is read and written. -/
def payloadForm : PayloadForm SupportedTypes := ⟨decode, members⟩

/-- The payload of the types of a registry. -/
def ofTypes (types : List TypeDescriptor) : SupportedTypes := ⟨types.map TypeDescriptor.element⟩

end SupportedTypes

/-- The payload of one element. -/
structure SingleElement (δ : Type) where
  /-- The element. -/
  element : δ
deriving DecidableEq

namespace SingleElement

variable {δ : Type}

/-- The form of the payload: its only field is the element. -/
def layout (form : WireForm δ) : Layout where
  title := "ElementPayload"
  Field := Unit
  fields := [()]
  label _ := "element"
  Value _ := δ
  decode _ := form.decode
  absence _ := .refused
  unlisted := .skipped
  positional := true

/-- Decodes the payload. -/
def decode (form : WireForm δ) (d : Draft) : Decoded (SingleElement δ) := do
  let r ← (layout form).read d
  return ⟨← r.take ()⟩

/-- How the payload is read and written. -/
def payloadForm (form : WireForm δ) : PayloadForm (SingleElement δ) :=
  ⟨decode form, fun p => [("element", form.toJson p.element)]⟩

end SingleElement

/-- The payload of a page of elements. -/
structure ElementList (δ : Type) where
  /-- The elements. -/
  elements : List δ
  /-- How many elements were passed over. -/
  startFrom : UInt64
  /-- How many elements there could have been. -/
  pageSize : UInt64
deriving DecidableEq

namespace ElementList

variable {δ : Type}

/-- The fields of the payload. -/
inductive Field
  | elements
  | startFrom
  | pageSize
deriving DecidableEq

/-- The form of the payload. -/
def layout (form : WireForm δ) : Layout where
  title := "ElementListPayload"
  Field := Field
  fields := [.elements, .startFrom, .pageSize]
  label
    | .elements => "elementList"
    | .startFrom => "startFrom"
    | .pageSize => "pageSize"
  Value
    | .elements => List δ
    | .startFrom => UInt64
    | .pageSize => UInt64
  decode
    | .elements => Decode.list form.decode
    | .startFrom => Decode.uint64
    | .pageSize => Decode.uint64
  absence
    | .elements => .refused
    | .startFrom => .refused
    | .pageSize => .refused
  unlisted := .skipped
  positional := true

/-- Decodes the payload. -/
def decode (form : WireForm δ) (d : Draft) : Decoded (ElementList δ) := do
  let r ← (layout form).read d
  return {
    elements := ← r.take Field.elements
    startFrom := ← r.take Field.startFrom
    pageSize := ← r.take Field.pageSize }

/-- How the payload is read and written. -/
def payloadForm (form : WireForm δ) : PayloadForm (ElementList δ) where
  decode := decode form
  members p := [("elementList", .arr (p.elements.map form.toJson)),
    ("startFrom", .int p.startFrom.toNat), ("pageSize", .int p.pageSize.toNat)]

/-- The payload of a page of beans. -/
def ofPage (k : BeanKind) (page : Page k.Bean) : ElementList k.Element :=
  ⟨page.elements.map k.element, page.startFrom, page.pageSize⟩

end ElementList

/-- The page that the query of a request asks for. -/
structure PagingQuery where
  /-- How many elements to pass over. -/
  startFrom : Option UInt64
  /-- How many elements to take at most. -/
  pageSize : Option UInt64
deriving DecidableEq

namespace PagingQuery

/-- The query that asks for nothing. -/
def empty : PagingQuery := ⟨none, none⟩

/-- The page that a query asks for: the first one, if it does not say. -/
def page (q : PagingQuery) : PageRequest := ⟨q.startFrom.getD 0, q.pageSize⟩

/-- The fields of a query. -/
inductive Field
  | startFrom
  | pageSize
deriving DecidableEq

/-- The form of a query in JSON. -/
def layout : Layout where
  title := "PagingQuery"
  Field := Field
  fields := [.startFrom, .pageSize]
  label
    | .startFrom => "startFrom"
    | .pageSize => "pageSize"
  Value
    | .startFrom => Option UInt64
    | .pageSize => Option UInt64
  decode
    | .startFrom => Decode.optional Decode.uint64
    | .pageSize => Decode.optional Decode.uint64
  absence
    | .startFrom => .fromObject none
    | .pageSize => .fromObject none
  unlisted := .skipped
  positional := true

/-- Decodes a query. -/
def decode (d : Draft) : Decoded PagingQuery := do
  let r ← layout.read d
  return { startFrom := ← r.take Field.startFrom, pageSize := ← r.take Field.pageSize }

end PagingQuery

end RelationalCatalog
