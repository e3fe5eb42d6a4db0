import RelationalCatalog.Attribute.Mapping

/-!
# Attributes are the coerced properties

- `coerce_fits` — what a property is coerced to is of the kind that is wanted
- `Attributes.Supplies.of_property` — what an entity supplies for a specification is `coerce` of its
  property
- `Attributes.run_text` and its like — what an access finds, and what it leaves
- `Attributes.foldl_without_eq_empty` — taking all attributes out leaves nothing
-/

namespace RelationalCatalog

/-! ## Coercion -/

/-- Whether a value is of a kind; a symbol must be one of those that are listed. -/
def AttributeValue.Fits : AttributeValue → AttributeKind → Prop
  | .text _, .text => True
  | .int _, .int => True
  | .bool _, .bool => True
  | .date _, .date => True
  | .symbol s, .symbol symbols => s ∈ symbols
  | _, _ => False

theorem coerceInt_fits {s : String} {v : AttributeValue} (h : coerceInt s = .ok v) :
    v.Fits .int := by
  rw [coerceInt] at h
  split at h <;> cases h
  trivial

theorem coerceBool_fits {s : String} {v : AttributeValue} (h : coerceBool s = .ok v) :
    v.Fits .bool := by
  rw [coerceBool] at h
  split at h
  · cases h
    trivial
  · split at h <;> cases h
    trivial

theorem coerceMillis_fits {millis : Int64} {v : AttributeValue} (h : coerceMillis millis = .ok v) :
    v.Fits .date := by
  rw [coerceMillis] at h
  split at h <;> cases h
  trivial

theorem coerceDate_fits {s : String} {v : AttributeValue} (h : coerceDate s = .ok v) :
    v.Fits .date := by
  rw [coerceDate] at h
  split at h <;> cases h
  trivial

theorem coerceSymbol_fits {symbols : List String} {s : String} {v : AttributeValue}
    (h : coerceSymbol symbols s = .ok v) : v.Fits (.symbol symbols) := by
  rw [coerceSymbol] at h
  split at h
  · rename_i symbol hfind
    cases h
    exact List.mem_of_find?_eq_some hfind
  · cases h

/-- **What a property is coerced to is of the kind that is wanted.** -/
theorem coerce_fits {p : Property} {kind : AttributeKind} {v : AttributeValue}
    (h : coerce p kind = .ok (some v)) : v.Fits kind := by
  have hmap {x : Except CoercionFault AttributeValue} (hx : x.map some = .ok (some v)) :
      x = .ok v := by
    cases x with
    | error fault => cases hx
    | ok v' =>
      obtain rfl := Option.some.inj (Except.ok.inj hx)
      rfl
  cases kind with
  | text =>
    cases p with
    | text | symbol => cases h; trivial
    | _ => cases h
  | int =>
    cases p with
    | int n => cases h; trivial
    | text s => exact coerceInt_fits (hmap h)
    | _ => cases h
  | bool =>
    cases p with
    | bool b => cases h; trivial
    | text s => exact coerceBool_fits (hmap h)
    | _ => cases h
  | date =>
    cases p with
    | int millis => exact coerceMillis_fits (hmap h)
    | text s => exact coerceDate_fits (hmap h)
    | _ => cases h
  | symbol symbols =>
    cases p with
    | text s => exact coerceSymbol_fits (hmap h)
    | symbol s => exact coerceSymbol_fits (hmap h)
    | _ => cases h

/-- Only a null property stands for no value. -/
theorem coerce_eq_ok_none_iff {p : Property} {kind : AttributeKind} :
    coerce p kind = .ok none ↔ p = .null := by
  have hmap (x : Except CoercionFault AttributeValue) : x.map some ≠ .ok none := by
    cases x <;> exact fun h => by cases h
  constructor
  · intro h
    -- Any other property is taken as it is, read, or refused.
    cases kind <;> cases p <;> first | rfl | cases h | exact absurd h (hmap _)
  · rintro rfl
    cases kind <;> rfl

namespace Attributes

/-! ## Values of an entity -/

/-- What an entity supplies for a specification: the value of its property, if it has one. -/
structure Supplies (e : Entity) (spec : AttributeSpec) (value : Option AttributeValue) : Prop where
  /-- the value is the one that the specification takes -/
  valueOf_eq : valueOf e spec = .ok value
  /-- a needed value is there -/
  needed : spec.required = true → value ≠ none

section Supplies

variable {e : Entity} {spec : AttributeSpec} {value : Option AttributeValue}

theorem valueOf_of_none (hp : e.property? spec.name = none) : valueOf e spec = .ok none := by
  rw [valueOf.eq_def, hp]

theorem valueOf_eq_ok_iff {p : Property} (hp : e.property? spec.name = some p) :
    valueOf e spec = .ok value ↔ coerce p spec.kind = .ok value := by
  rw [valueOf.eq_def, hp]
  cases hcoerce : coerce p spec.kind with
  | error fault => simp [hcoerce]
  | ok coerced => simp [hcoerce]

/-- A property that is not null supplies the value that it is coerced to. -/
theorem Supplies.of_property (h : Supplies e spec value) {p : Property}
    (hp : e.property? spec.name = some p) (hnull : p ≠ .null) :
    ∃ v, coerce p spec.kind = .ok (some v) ∧ value = some v := by
  have hcoerce : coerce p spec.kind = .ok value := (valueOf_eq_ok_iff hp).1 h.valueOf_eq
  cases value with
  | none => exact absurd (coerce_eq_ok_none_iff.1 hcoerce) hnull
  | some v => exact ⟨v, hcoerce, rfl⟩

/-- A property that is missing or null supplies nothing, so nothing is needed. -/
theorem Supplies.of_missing (h : Supplies e spec value)
    (hp : e.property? spec.name = none ∨ e.property? spec.name = some .null) :
    spec.required = false ∧ value = none := by
  have hnone : valueOf e spec = .ok none := by
    rcases hp with hp | hp
    · exact valueOf_of_none hp
    · exact (valueOf_eq_ok_iff hp).2 (coerce_eq_ok_none_iff.2 rfl)
  have hvalue : value = none := Except.ok.inj (h.valueOf_eq.symm.trans hnone)
  exact ⟨Bool.eq_false_iff.2 fun hrequired => h.needed hrequired hvalue, hvalue⟩

/-- A supplied value is what the property is coerced to. -/
theorem Supplies.exists_property {v : AttributeValue} (h : Supplies e spec (some v)) :
    ∃ p, e.property? spec.name = some p ∧ coerce p spec.kind = .ok (some v) := by
  cases hp : e.property? spec.name with
  | none => exact nomatch (h.of_missing (.inl hp)).2
  | some p => exact ⟨p, rfl, (valueOf_eq_ok_iff hp).1 h.valueOf_eq⟩

/-- A supplied value is of the kind of its specification. -/
theorem Supplies.fits {v : AttributeValue} (h : Supplies e spec (some v)) : v.Fits spec.kind := by
  obtain ⟨p, -, hcoerce⟩ := h.exists_property
  exact coerce_fits hcoerce

end Supplies

/-! ## Accesses -/

@[simp] theorem get?_without_self (as : Attributes) (name : String) :
    (as.without name).values.get? name = none := SortedMap.get?_erase_self _ _

theorem get?_without_of_ne (as : Attributes) {name other : String} (h : other ≠ name) :
    (as.without name).values.get? other = as.values.get? other := SortedMap.get?_erase_of_ne _ h

/-- What an access to an attribute finds. -/
def content? {α : Type} (as : Attributes) (read? : AttributeValue → Option α) (name : String) :
    Option α :=
  (as.values.get? name).bind read?

/-- An access to one attribute finds the same when another one has been taken out. -/
theorem content?_without_of_ne {α : Type} (as : Attributes) {name other : String}
    (h : other ≠ name) (read? : AttributeValue → Option α) :
    (as.without name).content? read? other = as.content? read? other := by
  rw [content?, content?, get?_without_of_ne as h]

/-- What runs later meets the attributes that were left. -/
theorem run_bind {α β : Type} (x : StateM Attributes α) (f : α → StateM Attributes β)
    (as : Attributes) : (x >>= f).run as = (f (x.run as).1).run (x.run as).2 := rfl

theorem run_pure {α : Type} (a : α) (as : Attributes) :
    (pure a : StateM Attributes α).run as = (a, as) := rfl

theorem run_text? (name : String) (as : Attributes) :
    (text? name).run as = (as.content? AttributeValue.text? name, as.without name) := rfl

theorem run_text (name : String) (as : Attributes) :
    (text name).run as = ((as.content? AttributeValue.text? name).getD "", as.without name) := rfl

theorem run_int (name : String) (as : Attributes) :
    (int name).run as = ((as.content? AttributeValue.int? name).getD 0, as.without name) := rfl

theorem run_boolOr (name : String) (default : Bool) (as : Attributes) :
    (boolOr name default).run as =
      ((as.content? AttributeValue.bool? name).getD default, as.without name) := rfl

theorem run_date? (name : String) (as : Attributes) :
    (date? name).run as = (as.content? AttributeValue.date? name, as.without name) := rfl

theorem run_symbol? (name : String) (as : Attributes) :
    (symbol? name).run as = (as.content? AttributeValue.symbol? name, as.without name) := rfl

/-- Reading a value of a kind loses nothing: it can be made again from its content. -/
def Reads {α : Type} (kind : AttributeKind) (read? : AttributeValue → Option α)
    (make : α → AttributeValue) : Prop :=
  ∀ v, v.Fits kind → (read? v).map make = some v

theorem reads_text : Reads .text AttributeValue.text? .text := by
  intro v hfits
  cases v with
  | text => rfl
  | _ => cases hfits

theorem reads_int : Reads .int AttributeValue.int? .int := by
  intro v hfits
  cases v with
  | int => rfl
  | _ => cases hfits

theorem reads_bool : Reads .bool AttributeValue.bool? .bool := by
  intro v hfits
  cases v with
  | bool => rfl
  | _ => cases hfits

theorem reads_date : Reads .date AttributeValue.date? .date := by
  intro v hfits
  cases v with
  | date => rfl
  | _ => cases hfits

section Reads

variable {α : Type} {kind : AttributeKind} {read? : AttributeValue → Option α}
  {make : α → AttributeValue} {as : Attributes} {name : String}

/-- An access of the right kind finds the value of an attribute. -/
theorem Reads.map_content? (h : Reads kind read? make)
    (hfits : ∀ v, as.values.get? name = some v → v.Fits kind) :
    (as.content? read? name).map make = as.values.get? name := by
  rw [content?]
  cases hget : as.values.get? name with
  | none => rfl
  | some v => exact h v (hfits v hget)

/-- An access of the right kind with a default finds the value of an attribute, or else the
default. -/
theorem Reads.some_getD_content? (h : Reads kind read? make)
    (hfits : ∀ v, as.values.get? name = some v → v.Fits kind) (default : α) :
    some (make ((as.content? read? name).getD default)) =
      (as.values.get? name).or (some (make default)) := by
  rw [← h.map_content? hfits]
  cases as.content? read? name <;> rfl

end Reads

/-- When all attributes have been taken out, none is left. -/
theorem foldl_without_eq_empty {names : List String} {as : Attributes}
    (h : ∀ name, name ∉ names → as.values.get? name = none) :
    names.foldl without as = empty := by
  induction names generalizing as with
  | nil =>
    have hvalues : as.values = .empty :=
      SortedMap.eq_empty_of_get? fun name => h name List.not_mem_nil
    exact congrArg Attributes.mk hvalues
  | cons first names ih =>
    refine ih fun name hname => ?_
    by_cases heq : name = first
    · rw [heq, get?_without_self]
    · rw [get?_without_of_ne _ heq]
      exact h name fun hmem => (List.mem_cons.1 hmem).elim heq hname

end Attributes

end RelationalCatalog
