import Mathlib.Data.List.Induction
import Mathlib.Data.List.Nodup
import RelationalCatalog.Proofs.Attribute.Mapping

/-!
# A table of attributes is taken whole or not at all

An entity either supplies what a specification asks for (`Attributes.Supplies`) or offends against
it with an error of its own (`Attributes.Offends`), and what was gathered before does not matter
for that. So the outcome of a table can be told from its specifications one by one:

- `Attributes.ofEntity_eq_error_iff` — the error is that of the first specification that the entity
  offends against
- `Attributes.get?_of_ofEntity` — without one, a name has the value that is supplied for the last
  specification of that name
- `Attributes.ofEntity_congr` — only the identifier and the properties that the table names matter,
  and of these only the ones that are not null
-/

namespace RelationalCatalog

/-- The property of a name, if there is one that is not null. -/
def Entity.present? (e : Entity) (name : String) : Option Property :=
  (e.property? name).filter fun p => !p.isNull

namespace Attributes

/-- The errors of an entity that does not supply what a specification asks for. -/
inductive Offends (e : Entity) (spec : AttributeSpec) : ServiceError → Prop
  /-- A property that does not represent a value of the kind is refused with the reason. -/
  | invalid {p : Property} {fault : CoercionFault} (hp : e.property? spec.name = some p)
    (hfault : coerce p spec.kind = .error fault) :
    Offends e spec (.invalidAttribute e.guid spec.name fault.message)
  /-- A needed value is missing if there is no property or a null one. -/
  | missing (hrequired : spec.required = true)
    (hp : e.property? spec.name = none ∨ e.property? spec.name = some .null) :
    Offends e spec (.missingAttribute e.guid spec.name)

/-- The attributes with a value bound to a name, if there is one. -/
def withValue (as : Attributes) (name : String) : Option AttributeValue → Attributes
  | some v => ⟨as.values.insert name v⟩
  | none => as

theorem get?_withValue_self (as : Attributes) (name : String) (value : Option AttributeValue) :
    (as.withValue name value).values.get? name = value.or (as.values.get? name) := by
  cases value with
  | none => rfl
  | some v => exact SortedMap.get?_insert_self _ _ _

theorem get?_withValue_of_ne (as : Attributes) {name other : String} (h : other ≠ name)
    (value : Option AttributeValue) :
    (as.withValue name value).values.get? other = as.values.get? other := by
  cases value with
  | none => rfl
  | some v => exact SortedMap.get?_insert_of_ne _ h v

/-! ## One specification -/

section Spec

variable {e : Entity} {as : Attributes} {spec : AttributeSpec} {value : Option AttributeValue}
  {error : ServiceError}

/-- What is supplied is bound to the name of the specification. -/
theorem add_of_supplies (h : Supplies e spec value) :
    add e as spec = .ok (as.withValue spec.name value) := by
  rw [add, h.valueOf_eq]
  cases value with
  | none => exact if_neg fun hrequired => h.needed hrequired rfl
  | some v => rfl

theorem add_of_offends (h : Offends e spec error) : add e as spec = .error error := by
  cases h with
  | invalid hp hfault =>
    rw [add, valueOf.eq_def, hp]
    simp only [hfault]
    rfl
  | missing hrequired hp =>
    have hnone : valueOf e spec = .ok none := by
      rcases hp with hp | hp
      · exact valueOf_of_none hp
      · exact (valueOf_eq_ok_iff hp).2 (coerce_eq_ok_none_iff.2 rfl)
    rw [add, hnone]
    exact if_pos hrequired

/-- An entity supplies what a specification asks for or offends against it. -/
theorem supplies_or_offends (e : Entity) (spec : AttributeSpec) :
    (∃ value, Supplies e spec value) ∨ ∃ error, Offends e spec error := by
  have hmissing (hp : e.property? spec.name = none ∨ e.property? spec.name = some .null)
      (hnone : valueOf e spec = .ok none) :
      (∃ value, Supplies e spec value) ∨ ∃ error, Offends e spec error := by
    by_cases hrequired : spec.required = true
    · exact .inr ⟨_, .missing hrequired hp⟩
    · exact .inl ⟨none, hnone, fun hneeded => absurd hneeded hrequired⟩
  cases hp : e.property? spec.name with
  | none => exact hmissing (.inl hp) (valueOf_of_none hp)
  | some p =>
    cases hcoerce : coerce p spec.kind with
    | error fault => exact .inr ⟨_, .invalid hp hcoerce⟩
    | ok value =>
      have hvalue : valueOf e spec = .ok value := (valueOf_eq_ok_iff hp).2 hcoerce
      cases value with
      | none =>
        obtain rfl := coerce_eq_ok_none_iff.1 hcoerce
        exact hmissing (.inr hp) hvalue
      | some v => exact .inl ⟨some v, hvalue, fun _ => Option.some_ne_none v⟩

theorem exists_offends_iff :
    (∃ error, Offends e spec error) ↔
      (∃ p fault, e.property? spec.name = some p ∧ coerce p spec.kind = .error fault) ∨
        spec.required = true ∧
          (e.property? spec.name = none ∨ e.property? spec.name = some .null) := by
  constructor
  · rintro ⟨error, hp, hfault⟩
    · exact .inl ⟨_, _, hp, hfault⟩
    · exact .inr ⟨by assumption, by assumption⟩
  · rintro (⟨p, fault, hp, hfault⟩ | ⟨hrequired, hp⟩)
    · exact ⟨_, .invalid hp hfault⟩
    · exact ⟨_, .missing hrequired hp⟩

/-- It does not do both. -/
theorem Supplies.not_offends (h : Supplies e spec value) : ¬ Offends e spec error := by
  intro hoffends
  have hadd : add e empty spec = .ok (empty.withValue spec.name value) := add_of_supplies h
  rw [add_of_offends hoffends] at hadd
  cases hadd

/-- For one name, all specifications are supplied with a value or none is. -/
theorem Supplies.eq_none {spec' : AttributeSpec} {value' : Option AttributeValue}
    (h : Supplies e spec none) (h' : Supplies e spec' value') (hname : spec'.name = spec.name) :
    value' = none := by
  cases hp : e.property? spec.name with
  | none => exact (h'.of_missing (.inl (hname ▸ hp))).2
  | some p =>
    by_cases hnull : p = .null
    · exact (h'.of_missing (.inr (hname ▸ hnull ▸ hp))).2
    · obtain ⟨v, -, hv⟩ := h.of_property hp hnull
      cases hv

end Spec

/-! ## Tables -/

section Table

variable {e : Entity} {specs : List AttributeSpec} {error : ServiceError}

/-- A list has a first item of a kind behind others if it begins with one, or with another item
and the rest has a first one. -/
theorem exists_first_cons_iff {α : Type} {P Q : α → Prop} {a : α} {rest : List α} :
    (∃ before x after, a :: rest = before ++ x :: after ∧ P x ∧ ∀ y ∈ before, Q y) ↔
      P a ∨ Q a ∧ ∃ before x after, rest = before ++ x :: after ∧ P x ∧ ∀ y ∈ before, Q y := by
  constructor
  · rintro ⟨before, x, after, hsplit, hx, hbefore⟩
    cases before with
    | nil =>
      obtain ⟨rfl, rfl⟩ := List.cons.inj hsplit
      exact .inl hx
    | cons first before =>
      obtain ⟨rfl, rfl⟩ := List.cons.inj hsplit
      exact .inr ⟨hbefore a List.mem_cons_self, before, x, after, rfl, hx,
        fun y hy => hbefore y (List.mem_cons_of_mem _ hy)⟩
  · rintro (ha | ⟨ha, before, x, after, rfl, hx, hbefore⟩)
    · exact ⟨[], a, rest, rfl, ha, fun y hy => absurd hy List.not_mem_nil⟩
    · refine ⟨a :: before, x, after, rfl, hx, fun y hy => ?_⟩
      rcases List.mem_cons.1 hy with rfl | hy
      · exact ha
      · exact hbefore y hy

/-- The first specification that is offended against decides, whatever has been gathered. -/
theorem foldlM_eq_error_iff {as : Attributes} :
    specs.foldlM (add e) as = .error error ↔
      ∃ before spec after, specs = before ++ spec :: after ∧ Offends e spec error ∧
        ∀ earlier ∈ before, ∀ error', ¬ Offends e earlier error' := by
  induction specs generalizing as with
  | nil =>
    refine ⟨fun h => (by cases h), ?_⟩
    rintro ⟨before, spec, after, hsplit, -⟩
    simp at hsplit
  | cons spec specs ih =>
    rw [List.foldlM_cons, exists_first_cons_iff]
    rcases supplies_or_offends e spec with ⟨value, hsupplies⟩ | ⟨error', hoffends⟩
    · rw [add_of_supplies hsupplies, or_iff_right hsupplies.not_offends,
        and_iff_right fun _ => hsupplies.not_offends]
      exact ih
    · rw [add_of_offends hoffends]
      constructor
      · intro h
        cases h
        exact .inl hoffends
      · rintro (hsame | ⟨hnot, -⟩)
        · have hadd : add e as spec = .error error := add_of_offends hsame
          exact (add_of_offends hoffends).symm.trans hadd
        · exact absurd hoffends (hnot error')

/-- **The error of a table is that of the first specification that is offended against.** -/
theorem ofEntity_eq_error_iff :
    ofEntity e specs = .error error ↔
      ∃ before spec after, specs = before ++ spec :: after ∧ Offends e spec error ∧
        ∀ earlier ∈ before, ∀ error', ¬ Offends e earlier error' := foldlM_eq_error_iff

/-- An error of a table names the entity and a specification. -/
theorem ofEntity_error (h : ofEntity e specs = .error error) :
    ∃ spec ∈ specs, (∃ reason, error = .invalidAttribute e.guid spec.name reason) ∨
      error = .missingAttribute e.guid spec.name := by
  obtain ⟨before, spec, after, rfl, hoffends, -⟩ := ofEntity_eq_error_iff.1 h
  refine ⟨spec, List.mem_append_right _ List.mem_cons_self, ?_⟩
  cases hoffends with
  | invalid hp hfault => exact .inl ⟨_, rfl⟩
  | missing hrequired hp => exact .inr rfl

/-- A table fails just if one of its specifications is offended against. -/
theorem exists_error_iff :
    (∃ error, ofEntity e specs = .error error) ↔ ∃ spec ∈ specs, ∃ error, Offends e spec error := by
  rw [ofEntity]
  generalize empty = as
  induction specs generalizing as with
  | nil => exact ⟨fun ⟨error, h⟩ => (by cases h), fun ⟨spec, hspec, _⟩ => (by cases hspec)⟩
  | cons spec specs ih =>
    simp only [List.foldlM_cons, List.mem_cons, exists_eq_or_imp]
    rcases supplies_or_offends e spec with ⟨value, hsupplies⟩ | ⟨error, hoffends⟩
    · have hnot : ¬ ∃ error, Offends e spec error := fun ⟨_, h⟩ => hsupplies.not_offends h
      rw [add_of_supplies hsupplies, or_iff_right hnot]
      exact ih _
    · rw [add_of_offends hoffends]
      exact ⟨fun _ => .inl ⟨error, hoffends⟩, fun _ => ⟨error, rfl⟩⟩

theorem ofEntity_concat (e : Entity) (specs : List AttributeSpec) (spec : AttributeSpec) :
    ofEntity e (specs ++ [spec]) = ofEntity e specs >>= fun as => add e as spec := by
  rw [ofEntity, ofEntity, List.foldlM_append]
  refine congrArg (List.foldlM (add e) empty specs >>= ·) (funext fun as => ?_)
  rw [List.foldlM_cons]
  cases add e as spec <;> rfl

/-- The last specification of a name. -/
def lastSpec? (specs : List AttributeSpec) (name : String) : Option AttributeSpec :=
  specs.findRev? fun spec => spec.name == name

theorem lastSpec?_concat_self (specs : List AttributeSpec) (spec : AttributeSpec) :
    lastSpec? (specs ++ [spec]) spec.name = some spec := by
  simp [lastSpec?, List.findRev?_eq_find?_reverse]

theorem lastSpec?_concat_of_ne (specs : List AttributeSpec) {spec : AttributeSpec} {name : String}
    (h : spec.name ≠ name) : lastSpec? (specs ++ [spec]) name = lastSpec? specs name := by
  simp [lastSpec?, List.findRev?_eq_find?_reverse, h]

theorem name_of_lastSpec? {spec : AttributeSpec} {name : String}
    (h : lastSpec? specs name = some spec) : spec ∈ specs ∧ spec.name = name := by
  rw [lastSpec?, List.findRev?_eq_find?_reverse] at h
  have hname := List.find?_some h
  exact ⟨List.mem_reverse.1 (List.mem_of_find?_eq_some h), eq_of_beq hname⟩

theorem lastSpec?_eq_none_iff {name : String} :
    lastSpec? specs name = none ↔ name ∉ specs.map (·.name) := by
  rw [lastSpec?, List.findRev?_eq_find?_reverse, List.find?_eq_none, List.mem_map]
  simp only [List.mem_reverse, beq_iff_eq, not_exists, not_and]

/-- **A name has what is supplied for its last specification**, and no other name has a value. -/
theorem get?_of_ofEntity {as : Attributes} (h : ofEntity e specs = .ok as) (name : String) :
    (∀ spec, lastSpec? specs name = some spec → Supplies e spec (as.values.get? name)) ∧
      (lastSpec? specs name = none → as.values.get? name = none) := by
  -- From the back, as the last specification of the table is the last one of its name.
  induction specs using List.reverseRecOn generalizing as with
  | nil =>
    cases h
    exact ⟨fun spec hspec => (by cases hspec), fun _ => rfl⟩
  | append_singleton specs spec ih =>
    rw [ofEntity_concat] at h
    cases hof : ofEntity e specs with
    | error error =>
      rw [hof] at h
      cases h
    | ok before =>
      rw [hof] at h
      obtain ⟨hlast, hnone⟩ := ih hof
      rcases supplies_or_offends e spec with ⟨value, hsupplies⟩ | ⟨error, hoffends⟩
      · have hadd : add e before spec = .ok as := h
        rw [add_of_supplies hsupplies] at hadd
        obtain rfl := Except.ok.inj hadd
        by_cases hname : spec.name = name
        · subst hname
          rw [lastSpec?_concat_self, get?_withValue_self]
          refine ⟨fun spec' hspec' => ?_, fun hcontra => (by cases hcontra)⟩
          obtain rfl := Option.some.inj hspec'
          cases value with
          | some v => exact hsupplies
          | none =>
            have hbefore : before.values.get? spec.name = none := by
              cases hearlier : lastSpec? specs spec.name with
              | none => exact hnone hearlier
              | some spec' =>
                exact hsupplies.eq_none (hlast spec' hearlier) (name_of_lastSpec? hearlier).2
            rw [hbefore]
            exact hsupplies
        · rw [lastSpec?_concat_of_ne specs hname, get?_withValue_of_ne before (Ne.symm hname)]
          exact ⟨hlast, hnone⟩
      · have hadd : add e before spec = .ok as := h
        rw [add_of_offends hoffends] at hadd
        cases hadd

/-- The value of a name is its property, coerced to the kind of the last specification. -/
theorem get?_eq_some_iff_coerce {as : Attributes} (h : ofEntity e specs = .ok as) {name : String}
    {v : AttributeValue} :
    as.values.get? name = some v ↔
      ∃ spec p, lastSpec? specs name = some spec ∧ e.property? name = some p ∧
        coerce p spec.kind = .ok (some v) := by
  obtain ⟨hlast, hnone⟩ := get?_of_ofEntity h name
  constructor
  · intro hv
    cases hspec : lastSpec? specs name with
    | none =>
      rw [hnone hspec] at hv
      cases hv
    | some spec =>
      have hsupplies := hlast spec hspec
      rw [hv] at hsupplies
      obtain ⟨p, hp, hcoerce⟩ := hsupplies.exists_property
      exact ⟨spec, p, rfl, (name_of_lastSpec? hspec).2 ▸ hp, hcoerce⟩
  · rintro ⟨spec, p, hspec, hp, hcoerce⟩
    have hname : spec.name = name := (name_of_lastSpec? hspec).2
    have hvalue := (valueOf_eq_ok_iff (hname ▸ hp)).1 (hlast spec hspec).valueOf_eq
    exact Except.ok.inj (hvalue.symm.trans hcoerce)

/-- The names with a value are those of specifications whose property is there and not null. -/
theorem isSome_get?_iff {as : Attributes} (h : ofEntity e specs = .ok as) {name : String} :
    (as.values.get? name).isSome = true ↔
      name ∈ specs.map (·.name) ∧ ∃ p, e.property? name = some p ∧ p ≠ .null := by
  rw [Option.isSome_iff_exists]
  constructor
  · rintro ⟨v, hv⟩
    obtain ⟨spec, p, hspec, hp, hcoerce⟩ := (get?_eq_some_iff_coerce h).1 hv
    obtain ⟨hmem, rfl⟩ := name_of_lastSpec? hspec
    refine ⟨List.mem_map_of_mem hmem, p, hp, ?_⟩
    rintro rfl
    have hnull : coerce .null spec.kind = .ok none := coerce_eq_ok_none_iff.2 rfl
    rw [hnull] at hcoerce
    cases hcoerce
  · rintro ⟨hmem, p, hp, hnull⟩
    cases hspec : lastSpec? specs name with
    | none => exact absurd hmem (lastSpec?_eq_none_iff.1 hspec)
    | some spec =>
      obtain ⟨-, rfl⟩ := name_of_lastSpec? hspec
      obtain ⟨v, -, hv⟩ := ((get?_of_ofEntity h _).1 spec hspec).of_property hp hnull
      exact ⟨v, hv⟩

/-! ### Tables without repeated names -/

/-- Where no name occurs twice, every specification is the last one of its name. -/
theorem lastSpec?_of_mem (hdistinct : (specs.map (·.name)).Nodup) {spec : AttributeSpec}
    (hspec : spec ∈ specs) : lastSpec? specs spec.name = some spec := by
  cases hlast : lastSpec? specs spec.name with
  | none => exact absurd (List.mem_map_of_mem hspec) (lastSpec?_eq_none_iff.1 hlast)
  | some spec' =>
    obtain ⟨hmem, hname⟩ := name_of_lastSpec? hlast
    rw [List.inj_on_of_nodup_map hdistinct hmem hspec hname]

/-- **Under the name of a specification stands what the entity supplies for it.** -/
theorem supplies_of_ofEntity (hdistinct : (specs.map (·.name)).Nodup) {as : Attributes}
    (h : ofEntity e specs = .ok as) {spec : AttributeSpec} (hspec : spec ∈ specs) :
    Supplies e spec (as.values.get? spec.name) :=
  (get?_of_ofEntity h spec.name).1 spec (lastSpec?_of_mem hdistinct hspec)

/-- Under other names stands nothing. -/
theorem get?_of_ofEntity_of_not_mem {as : Attributes} (h : ofEntity e specs = .ok as)
    {name : String} (hname : name ∉ specs.map (·.name)) : as.values.get? name = none :=
  (get?_of_ofEntity h name).2 (lastSpec?_eq_none_iff.2 hname)

/-! ### What matters for a table -/

/-- What a specification takes depends on the property only if that is not null. -/
theorem valueOf_eq (e : Entity) (spec : AttributeSpec) :
    valueOf e spec = match e.present? spec.name with
      | none => .ok none
      | some p => match coerce p spec.kind with
        | .ok value => .ok value
        | .error fault => .error (.invalidAttribute e.guid spec.name fault.message) := by
  rw [valueOf.eq_def, Entity.present?]
  cases e.property? spec.name with
  | none => rfl
  | some p =>
    cases p with
    | null =>
      have hnull : coerce .null spec.kind = .ok none := coerce_eq_ok_none_iff.2 rfl
      simp only [hnull]
      rfl
    | _ => rfl

/-- **Only the identifier and the properties that the table names matter**, and a null property is
as good as none. -/
theorem ofEntity_congr {e' : Entity} (hguid : e'.guid = e.guid)
    (hproperties : ∀ name ∈ specs.map (·.name), e'.present? name = e.present? name) :
    ofEntity e' specs = ofEntity e specs := by
  have hadd (as : Attributes) {spec : AttributeSpec} (hspec : spec ∈ specs) :
      add e' as spec = add e as spec := by
    rw [add, add, valueOf_eq, valueOf_eq, hproperties _ (List.mem_map_of_mem hspec), hguid]
  rw [ofEntity, ofEntity]
  -- The two gather the same from specification to specification.
  generalize empty = as
  induction specs generalizing as with
  | nil => rfl
  | cons spec specs ih =>
    rw [List.foldlM_cons, List.foldlM_cons, hadd as List.mem_cons_self]
    have htail := ih (fun name hname => hproperties name (List.mem_cons_of_mem _ hname))
      fun as spec' hspec' => hadd as (List.mem_cons_of_mem _ hspec')
    exact congrArg (add e as spec >>= ·) (funext htail)

end Table

end Attributes

end RelationalCatalog
