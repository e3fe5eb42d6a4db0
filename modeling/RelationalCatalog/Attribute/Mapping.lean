import RelationalCatalog.Attribute.Coercion
import RelationalCatalog.Error

/-!
# Attributes of an entity

A table of attribute specifications says which properties of an entity are wanted, of which
kinds, and which of them must be there. `Attributes.ofEntity` takes all of them or none: the
first specification of the table that is not met is the error. Properties that no specification
names do not matter.

An attribute set is read destructively: each access takes the attribute out of it, whether or
not its value is of the kind that is asked for.
-/

namespace RelationalCatalog

/-- One row of a table of attributes. -/
structure AttributeSpec where
  /-- The name of the attribute and of its property. -/
  name : String
  /-- The kind of the attribute. -/
  kind : AttributeKind
  /-- Whether it must have a value. -/
  required : Bool
deriving DecidableEq

/-- A row for an attribute that must have a value. -/
def AttributeSpec.needed (name : String) (kind : AttributeKind) : AttributeSpec :=
  ⟨name, kind, true⟩

/-- A row for an attribute that may have a value. -/
def AttributeSpec.optional (name : String) (kind : AttributeKind) : AttributeSpec :=
  ⟨name, kind, false⟩

/-- The attributes of an entity that have a value. -/
structure Attributes where
  /-- The values by the names of the attributes. -/
  values : SortedMap AttributeValue
deriving DecidableEq

namespace Attributes

/-- The set without attributes. -/
def empty : Attributes := ⟨.empty⟩

/-- The number of attributes. -/
def size (as : Attributes) : Nat := as.values.size

/-- Whether there is no attribute. -/
def isEmpty (as : Attributes) : Bool := as.values.isEmpty

/-- What one specification takes from an entity. -/
def valueOf (e : Entity) (spec : AttributeSpec) : Except ServiceError (Option AttributeValue) :=
  match e.property? spec.name with
  | none => .ok none
  | some property =>
    match coerce property spec.kind with
    | .ok value => .ok value
    | .error fault => .error (.invalidAttribute e.guid spec.name fault.message)

/-- Adds what one specification takes from an entity. -/
def add (e : Entity) (as : Attributes) (spec : AttributeSpec) :
    Except ServiceError Attributes := do
  match ← valueOf e spec with
  | some value => .ok ⟨as.values.insert spec.name value⟩
  | none =>
    if spec.required then .error (.missingAttribute e.guid spec.name) else .ok as

/-- The attributes that a table takes from an entity. -/
def ofEntity (e : Entity) (specs : List AttributeSpec) : Except ServiceError Attributes :=
  specs.foldlM (add e) empty

/-! ## Accesses -/

/-- The attributes but one. -/
def without (as : Attributes) (name : String) : Attributes := ⟨as.values.erase name⟩

/-- Takes an attribute out of the set. Its value counts if it has the content that is asked
for. -/
def take {α : Type} (content? : AttributeValue → Option α) (name : String) :
    StateM Attributes (Option α) :=
  fun as => ((as.values.get? name).bind content?, as.without name)

/-- The text of an attribute, if it has one. -/
def text? : String → StateM Attributes (Option String) := take AttributeValue.text?

/-- The text of an attribute, or the empty one. -/
def text (name : String) : StateM Attributes String := do
  return (← text? name).getD ""

/-- The integer of an attribute, or zero. -/
def int (name : String) : StateM Attributes Int64 := do
  return (← take AttributeValue.int? name).getD 0

/-- The truth value of an attribute, or a given one. -/
def boolOr (name : String) (default : Bool) : StateM Attributes Bool := do
  return (← take AttributeValue.bool? name).getD default

/-- The date of an attribute, if it has one. -/
def date? : String → StateM Attributes (Option Instant) := take AttributeValue.date?

/-- The symbol of an attribute, if it has one. -/
def symbol? : String → StateM Attributes (Option String) := take AttributeValue.symbol?

end Attributes

end RelationalCatalog
