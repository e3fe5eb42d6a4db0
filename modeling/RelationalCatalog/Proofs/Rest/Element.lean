import RelationalCatalog.Proofs.Instant.Reading
import RelationalCatalog.Proofs.Json.Record
import RelationalCatalog.Rest.Element

/-!
# Written elements are read back

The elements of every kind are decoded faithfully (`BeanKind.faithful_wireForm`). Each kind is an
instance of `Layout.faithful`: its fields are written as the layout says, and a field without a
value has no member.
-/

namespace RelationalCatalog

open Decode

variable {room : Nat}

theorem faithful_instant : Faithful room Instant.decode Instant.toJson where
  inverts := by
    intro e _ t
    rw [Instant.toJson, Json.toDraft, Instant.decode, Instant.relaxed_render]
  legible t := .str _

theorem faithful_optionalInstant :
    Faithful room (optional Instant.decode) (fun o => o.elim .null Instant.toJson) :=
  faithful_instant.optional fun _ h => by cases h

namespace TableElement

/-- The fields of a table that are given. -/
def slots (t : TableElement) : layout.Slots
  | .guid => some t.guid
  | .qualifiedName => some t.qualifiedName
  | .displayName => some t.displayName
  | .description => t.description.map some
  | .owner => t.owner.map some
  | .createTime => t.createTime.map some
  | .isDeprecated => some t.isDeprecated
  | .classifications => some t.classifications

/-- How the fields of a table are written. -/
def writeField : (f : Field) → layout.Value f → Json
  | .guid => Json.str
  | .qualifiedName => Json.str
  | .displayName => Json.str
  | .description => fun o => o.elim .null Json.str
  | .owner => fun o => o.elim .null Json.str
  | .createTime => fun o => o.elim .null Instant.toJson
  | .isDeprecated => Json.bool
  | .classifications => Json.ofTexts

theorem lawful_layout : layout.Lawful where
  field?_label := by intro f; cases f <;> rfl
  nodup := by decide

theorem faithful_writeField (f : Field) :
    Faithful (room + 1) (layout.decode f) (writeField f) := by
  cases f with
  | guid | qualifiedName | displayName => exact faithful_text
  | description | owner => exact faithful_optionalText
  | createTime => exact faithful_optionalInstant
  | isDeprecated => exact faithful_boolean
  | classifications => exact faithful_texts

theorem toJson_eq_given (t : TableElement) : t.toJson = .obj (layout.given writeField t.slots) := by
  obtain ⟨guid, qualifiedName, displayName, description, owner, createTime, isDeprecated,
    classifications⟩ := t
  cases description <;> cases owner <;> cases createTime <;> rfl

theorem faithful_tableElement : Faithful (room + 2) decode toJson := by
  refine Layout.faithful lawful_layout faithful_writeField slots toJson_eq_given fun t d hd => ?_
  obtain ⟨guid, qualifiedName, displayName, description, owner, createTime, isDeprecated,
    classifications⟩ := t
  rw [decode, hd]
  cases description <;> cases owner <;> cases createTime <;> rfl

end TableElement

namespace ColumnElement

/-- The fields of a column, all of which are given. -/
def slots (c : ColumnElement) : layout.Slots
  | .guid => some c.guid
  | .qualifiedName => some c.qualifiedName
  | .displayName => some c.displayName
  | .dataType => some c.dataType
  | .position => some c.position
  | .length => some c.length
  | .isNullable => some c.isNullable
  | .sortOrder => some c.sortOrder
  | .isPrimaryKey => some c.isPrimaryKey
  | .classifications => some c.classifications

/-- How the fields of a column are written. -/
def writeField : (f : Field) → layout.Value f → Json
  | .guid => Json.str
  | .qualifiedName => Json.str
  | .displayName => Json.str
  | .dataType => Json.str
  | .position => fun n => Json.int n.toInt
  | .length => fun n => Json.int n.toInt
  | .isNullable => Json.bool
  | .sortOrder => Json.str
  | .isPrimaryKey => Json.bool
  | .classifications => Json.ofTexts

theorem lawful_layout : layout.Lawful where
  field?_label := by intro f; cases f <;> rfl
  nodup := by decide

theorem faithful_writeField (f : Field) :
    Faithful (room + 1) (layout.decode f) (writeField f) := by
  cases f with
  | guid | qualifiedName | displayName | dataType | sortOrder => exact faithful_text
  | position | length => exact faithful_int64
  | isNullable | isPrimaryKey => exact faithful_boolean
  | classifications => exact faithful_texts

theorem faithful_columnElement : Faithful (room + 2) decode toJson := by
  refine Layout.faithful lawful_layout faithful_writeField slots (fun _ => rfl) ?_
  intro c d hd
  rw [decode, hd]
  rfl

end ColumnElement

namespace SchemaElement

/-- The fields of a schema that are given. -/
def slots (s : SchemaElement) : layout.Slots
  | .guid => some s.guid
  | .qualifiedName => some s.qualifiedName
  | .displayName => some s.displayName
  | .description => s.description.map some
  | .createTime => s.createTime.map some
  | .classifications => some s.classifications

/-- How the fields of a schema are written. -/
def writeField : (f : Field) → layout.Value f → Json
  | .guid => Json.str
  | .qualifiedName => Json.str
  | .displayName => Json.str
  | .description => fun o => o.elim .null Json.str
  | .createTime => fun o => o.elim .null Instant.toJson
  | .classifications => Json.ofTexts

theorem lawful_layout : layout.Lawful where
  field?_label := by intro f; cases f <;> rfl
  nodup := by decide

theorem faithful_writeField (f : Field) :
    Faithful (room + 1) (layout.decode f) (writeField f) := by
  cases f with
  | guid | qualifiedName | displayName => exact faithful_text
  | description => exact faithful_optionalText
  | createTime => exact faithful_optionalInstant
  | classifications => exact faithful_texts

theorem toJson_eq_given (s : SchemaElement) : s.toJson = .obj (layout.given writeField s.slots) := by
  obtain ⟨guid, qualifiedName, displayName, description, createTime, classifications⟩ := s
  cases description <;> cases createTime <;> rfl

theorem faithful_schemaElement : Faithful (room + 2) decode toJson := by
  refine Layout.faithful lawful_layout faithful_writeField slots toJson_eq_given fun s d hd => ?_
  obtain ⟨guid, qualifiedName, displayName, description, createTime, classifications⟩ := s
  rw [decode, hd]
  cases description <;> cases createTime <;> rfl

end SchemaElement

/-- **Elements are decoded faithfully**, of whatever kind they are. -/
theorem BeanKind.faithful_wireForm (k : BeanKind) :
    Faithful (room + 2) k.wireForm.decode k.wireForm.toJson := by
  cases k with
  | table => exact TableElement.faithful_tableElement
  | column => exact ColumnElement.faithful_columnElement
  | schema => exact SchemaElement.faithful_schemaElement

end RelationalCatalog
