import RelationalCatalog.Bean.Conversion
import RelationalCatalog.Proofs.Attribute.Table

/-!
# What conversion can give

- `TypeRegistry.convert_of_isAssignable` — an entity whose type counts as the bean's converts as its
  attributes are taken
- `TypeRegistry.convertAll_eq_ok_iff` — a list converts to the beans that its entities convert to
- `TypeRegistry.convertAll_eq_error_iff` — or else to the error of its first entity that fails
-/

namespace RelationalCatalog

namespace TypeRegistry

variable {β : Type} {r : TypeRegistry} {m : Mapping β}

/-- An entity of another type is refused for its type. -/
theorem convert_of_not_isAssignable {e : Entity}
    (h : r.isAssignable e.typeName m.typeName = false) :
    r.convert m e = .error (.typeMismatch e.guid m.typeName e.typeName) := by
  rw [convert, h]
  rfl

/-- Otherwise the bean is made from the attributes, or their error is the entity's. -/
theorem convert_of_isAssignable {e : Entity} (h : r.isAssignable e.typeName m.typeName = true) :
    r.convert m e =
      (Attributes.ofEntity e m.attributes).map fun as => ((m.assemble e.header).run as).1 := by
  rw [convert, if_pos h]
  cases Attributes.ofEntity e m.attributes <;> rfl

/-- An entity converts only if its type counts as the bean's. -/
theorem isAssignable_of_convert {e : Entity} {bean : β} (h : r.convert m e = .ok bean) :
    r.isAssignable e.typeName m.typeName = true := by
  cases hassignable : r.isAssignable e.typeName m.typeName with
  | true => rfl
  | false =>
    rw [convert_of_not_isAssignable hassignable] at h
    cases h

/-- With a type that counts as the bean's, an entity fails as its attributes do. -/
theorem convert_eq_error_iff {e : Entity} (h : r.isAssignable e.typeName m.typeName = true)
    {error : ServiceError} :
    r.convert m e = .error error ↔ Attributes.ofEntity e m.attributes = .error error := by
  rw [convert_of_isAssignable h]
  cases Attributes.ofEntity e m.attributes with
  | ok as => exact ⟨fun h => (by cases h), fun h => (by cases h)⟩
  | error error' => exact ⟨fun h => (by cases h; rfl), fun h => (by cases h; rfl)⟩

/-- An entity is refused for its type or for one of its attributes. -/
theorem convert_error {e : Entity} {error : ServiceError} (h : r.convert m e = .error error) :
    (r.isAssignable e.typeName m.typeName = false ∧
      error = .typeMismatch e.guid m.typeName e.typeName) ∨
    ∃ spec ∈ m.attributes, (∃ reason, error = .invalidAttribute e.guid spec.name reason) ∨
      error = .missingAttribute e.guid spec.name := by
  cases hassignable : r.isAssignable e.typeName m.typeName with
  | true => exact .inr (Attributes.ofEntity_error ((convert_eq_error_iff hassignable).mp h))
  | false =>
    rw [convert_of_not_isAssignable hassignable] at h
    exact .inl ⟨rfl, (Except.error.inj h).symm⟩

/-- The type is no reason to refuse an entity whose type counts as the bean's. -/
theorem convert_ne_typeMismatch {e : Entity}
    (h : r.isAssignable e.typeName m.typeName = true) (guid expected actual : String) :
    r.convert m e ≠ .error (.typeMismatch guid expected actual) := by
  intro heq
  obtain ⟨hassignable, -⟩ | ⟨spec, -, ⟨reason, hspec⟩ | hspec⟩ := convert_error heq
  · rw [h] at hassignable
    cases hassignable
  · cases hspec
  · cases hspec

/-- The paging is no reason to refuse an entity. -/
theorem convert_ne_invalidPaging (e : Entity) (reason : String) :
    r.convert m e ≠ .error (.invalidPaging reason) := by
  intro heq
  obtain ⟨-, herror⟩ | ⟨spec, -, ⟨reason', hspec⟩ | hspec⟩ := convert_error heq
  · cases herror
  · cases hspec
  · cases hspec

/-- **An entity's attributes are taken whole or not at all, and conversion adds a check of the type
only.** A table fails just if the entity offends against one of its specifications: with a property
that is refused for the kind, or without a value that is needed. The error is that of the first
such specification. Otherwise just the names of the table have a value whose property is there and
not null, and it is the coercion of that property to the kind of the last specification of the
name. Other properties do not matter, nor does it whether a property is null or missing. An entity
of another type does not convert, whatever its properties are. -/
theorem attributes_all_or_nothing :
    (∀ (e : Entity) (specs : List AttributeSpec),
      ((∃ error, Attributes.ofEntity e specs = .error error) ↔
        ∃ spec ∈ specs,
          (∃ p fault, e.property? spec.name = some p ∧ coerce p spec.kind = .error fault) ∨
            spec.required = true ∧
              (e.property? spec.name = none ∨ e.property? spec.name = some .null)) ∧
      (∀ error, Attributes.ofEntity e specs = .error error ↔
        ∃ before spec after, specs = before ++ spec :: after ∧ Attributes.Offends e spec error ∧
          ∀ earlier ∈ before, ∀ error', ¬ Attributes.Offends e earlier error') ∧
      (∀ as, Attributes.ofEntity e specs = .ok as → ∀ name,
        ((as.values.get? name).isSome = true ↔
          name ∈ specs.map (·.name) ∧ ∃ p, e.property? name = some p ∧ p ≠ .null) ∧
        ∀ v, as.values.get? name = some v ↔
          ∃ spec p, specs.findRev? (fun spec => spec.name == name) = some spec ∧
            e.property? name = some p ∧ coerce p spec.kind = .ok (some v)) ∧
      (∀ e' : Entity, e'.guid = e.guid →
        (∀ name ∈ specs.map (·.name), e'.present? name = e.present? name) →
        Attributes.ofEntity e' specs = Attributes.ofEntity e specs)) ∧
    (∀ (β : Type) (r : TypeRegistry) (m : Mapping β) (e : Entity),
      (r.isAssignable e.typeName m.typeName = false → ∀ properties : SortedMap Property,
        r.convert m { e with properties } =
          .error (.typeMismatch e.guid m.typeName e.typeName)) ∧
      (r.isAssignable e.typeName m.typeName = true →
        (∀ error, r.convert m e = .error error ↔
          Attributes.ofEntity e m.attributes = .error error) ∧
        ∀ as, Attributes.ofEntity e m.attributes = .ok as →
          r.convert m e = .ok ((m.assemble e.header).run as).1)) := by
  refine ⟨fun e specs => ⟨?_, ?_, ?_, ?_⟩, fun β r m e => ⟨?_, ?_⟩⟩
  · rw [Attributes.exists_error_iff]
    simp only [Attributes.exists_offends_iff]
  · exact fun error => Attributes.ofEntity_eq_error_iff
  · exact fun as h name => ⟨Attributes.isSome_get?_iff h, fun v =>
      Attributes.get?_eq_some_iff_coerce h⟩
  · exact fun e' hguid hproperties => Attributes.ofEntity_congr hguid hproperties
  · exact fun h properties => convert_of_not_isAssignable h
  · intro h
    refine ⟨fun error => convert_eq_error_iff h, fun as has => ?_⟩
    rw [convert_of_isAssignable h, has]
    rfl

/-- Of two specifications of one name the later one counts, an undeclared property does not matter,
and a table does not convert to a column whatever is known of it. -/
theorem later_specification_counts :
    (∃ as, Attributes.ofEntity
          (((Entity.new "e" "T").withProperty "size" (.text "7")).withProperty "x" .null)
          [.needed "size" .text, .optional "size" .int] = .ok as ∧
        as.values.get? "size" = some (.int 7)) ∧
      builtin.convert Column.mapping (.new "t" "RelationalTable") =
        .error (.typeMismatch "t" "RelationalColumn" "RelationalTable") := by
  obtain ⟨htables, hconvert⟩ := attributes_all_or_nothing
  refine ⟨⟨_, rfl, ?_⟩, ?_⟩
  · obtain ⟨-, -, hvalues, -⟩ := htables
      (((Entity.new "e" "T").withProperty "size" (.text "7")).withProperty "x" .null)
      [.needed "size" .text, .optional "size" .int]
    exact ((hvalues _ rfl "size").2 _).mpr ⟨_, _, rfl, rfl, rfl⟩
  · exact (hconvert _ builtin Column.mapping (.new "t" "RelationalTable")).1 (by decide) .empty

theorem convertAll_cons_eq_ok_iff {e : Entity} {es : List Entity} {beans : List β} :
    r.convertAll m (e :: es) = .ok beans ↔
      ∃ b bs, beans = b :: bs ∧ r.convert m e = .ok b ∧ r.convertAll m es = .ok bs := by
  rw [convertAll]
  constructor
  · intro h
    cases hb : r.convert m e with
    | error error => rw [hb] at h; cases h
    | ok b =>
      cases hbs : r.convertAll m es with
      | error error => rw [hb, hbs] at h; cases h
      | ok bs =>
        rw [hb, hbs] at h
        cases h
        exact ⟨b, bs, rfl, rfl, rfl⟩
  · rintro ⟨b, bs, rfl, hb, hbs⟩
    rw [hb, hbs]
    rfl

theorem convertAll_cons_eq_error_iff {e : Entity} {es : List Entity} {error : ServiceError} :
    r.convertAll m (e :: es) = .error error ↔
      r.convert m e = .error error ∨
        (∃ b, r.convert m e = .ok b) ∧ r.convertAll m es = .error error := by
  rw [convertAll]
  constructor
  · intro h
    cases hb : r.convert m e with
    | error error' => rw [hb] at h; cases h; exact .inl rfl
    | ok b =>
      cases hbs : r.convertAll m es with
      | error error' => rw [hb, hbs] at h; cases h; exact .inr ⟨⟨b, rfl⟩, rfl⟩
      | ok bs => rw [hb, hbs] at h; cases h
  · rintro (h | ⟨⟨b, hb⟩, h⟩)
    · rw [h]
      rfl
    · rw [hb, h]
      rfl

/-- **A list converts if all its entities do**, to the beans that they convert to. -/
theorem convertAll_eq_ok_iff {es : List Entity} {beans : List β} :
    r.convertAll m es = .ok beans ↔ es.map (r.convert m) = beans.map .ok := by
  induction es generalizing beans with
  | nil =>
    cases beans with
    | nil => exact ⟨fun _ => rfl, fun _ => rfl⟩
    | cons b bs => exact ⟨fun h => (by cases h), fun h => (by cases h)⟩
  | cons e es ih =>
    rw [convertAll_cons_eq_ok_iff]
    constructor
    · rintro ⟨b, bs, rfl, hb, hbs⟩
      rw [List.map_cons, List.map_cons, hb, ih.mp hbs]
    · intro h
      cases beans with
      | nil => cases h
      | cons b bs =>
        obtain ⟨hb, hbs⟩ := List.cons.inj h
        exact ⟨b, bs, rfl, hb, ih.mpr hbs⟩

/-- A list converts to as many beans as it has entities. -/
theorem length_of_convertAll {es : List Entity} {beans : List β}
    (h : r.convertAll m es = .ok beans) : beans.length = es.length := by
  have hmap := congrArg List.length (convertAll_eq_ok_iff.mp h)
  rw [List.length_map, List.length_map] at hmap
  exact hmap.symm

/-- **A list fails with the error of its first entity that does not convert.** -/
theorem convertAll_eq_error_iff {es : List Entity} {error : ServiceError} :
    r.convertAll m es = .error error ↔
      ∃ (j : Nat) (e : Entity), es[j]? = some e ∧ r.convert m e = .error error ∧
        ∀ i < j, ∀ e', es[i]? = some e' → ∃ b, r.convert m e' = .ok b := by
  induction es with
  | nil =>
    refine ⟨fun h => (by cases h), ?_⟩
    rintro ⟨j, e, he, -⟩
    cases he
  | cons e es ih =>
    rw [convertAll_cons_eq_error_iff, ih]
    -- An entity in front that converts moves the first failure by one.
    constructor
    · rintro (h | ⟨hfirst, j, e', he', herror, hbefore⟩)
      · exact ⟨0, e, rfl, h, fun i hi => absurd hi (Nat.not_lt_zero i)⟩
      · refine ⟨j + 1, e', he', herror, fun i hi e'' he'' => ?_⟩
        cases i with
        | zero =>
          obtain rfl := Option.some.inj he''
          exact hfirst
        | succ i => exact hbefore i (Nat.lt_of_succ_lt_succ hi) e'' he''
    · rintro ⟨j, e', he', herror, hbefore⟩
      cases j with
      | zero =>
        obtain rfl := Option.some.inj he'
        exact .inl herror
      | succ j =>
        exact .inr ⟨hbefore 0 (Nat.zero_lt_succ j) e rfl, j, e', he', herror,
          fun i hi e'' he'' => hbefore (i + 1) (Nat.succ_lt_succ hi) e'' he''⟩

end TypeRegistry

end RelationalCatalog
