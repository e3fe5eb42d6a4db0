import RelationalCatalog.Entity.Wire
import RelationalCatalog.Proofs.Text.Utf8

/-!
# Entities can be built in any order

An entity is built in steps, each of which sets a property or adds a classification. What is in it
can be told from the steps (`Entity.Built`): a property has the value that it was set to last, and
a classification is there if a step added it. A step keeps this of all the steps before it, so it
holds of a whole sequence (`Entity.built_build`).

There is nothing else in an entity, and both of its collections are kept in order. So two sequences
build the same entity, with the same written form, just if they set all properties to the same
values in the end and add the same classifications (`Entity.build_in_any_order`).
-/

namespace RelationalCatalog

/-! ## Steps -/

/-- A step of building an entity. -/
inductive EntityStep
  /-- A property is set, whatever its value was. -/
  | set (name : String) (value : Property)
  /-- A classification is added. -/
  | classify (name : String)

namespace EntityStep

/-- The value that a step sets a property to. -/
def valueOf? (name : String) : EntityStep → Option Property
  | set n value => if n = name then some value else none
  | classify _ => none

/-- The value that steps set a property to in the end, if one of them sets it. -/
def lastValue? (steps : List EntityStep) (name : String) : Option Property :=
  steps.reverse.findSome? (valueOf? name)

theorem lastValue?_concat (steps : List EntityStep) (s : EntityStep) (name : String) :
    lastValue? (steps ++ [s]) name = (s.valueOf? name).or (lastValue? steps name) := by
  rw [lastValue?, List.reverse_concat, List.findSome?_cons]
  cases s.valueOf? name <;> rfl

/-- Whether two sequences of steps come to the same: they set all properties to the same values in
the end, and add the same classifications. Floating-point numbers are the same if their bits
are. -/
structure Agree (steps steps' : List EntityStep) : Prop where
  values : ∀ name, lastValue? steps name = lastValue? steps' name
  classifications : ∀ name, classify name ∈ steps ↔ classify name ∈ steps'

end EntityStep

namespace Entity

open EntityStep (lastValue? Agree)

/-- The entity after a step. -/
def step (e : Entity) : EntityStep → Entity
  | .set name value => e.withProperty name value
  | .classify name => e.withClassification name

/-- The entity that is built in steps, from one that is empty. -/
def build (guid typeName : String) (steps : List EntityStep) : Entity :=
  steps.foldl step (new guid typeName)

/-! ## One step -/

section Step

variable (e : Entity) (s : EntityStep)

theorem guid_step : (e.step s).guid = e.guid := by
  cases s <;> rfl

theorem typeName_step : (e.step s).typeName = e.typeName := by
  cases s <;> rfl

/-- A step is seen in the property that it sets, and in no other. -/
theorem property?_step (name : String) :
    (e.step s).property? name = (s.valueOf? name).or (e.property? name) := by
  cases s with
  | set n value =>
    rw [EntityStep.valueOf?]
    by_cases hname : n = name
    · subst hname
      rw [if_pos rfl, Option.some_or]
      exact e.properties.get?_insert_self n value
    · rw [if_neg hname, Option.none_or]
      exact e.properties.get?_insert_of_ne (Ne.symm hname) value
  | classify c => rfl

/-- A step is seen in the classification that it adds, and in no other. -/
theorem mem_classifications_step (name : String) :
    name ∈ (e.step s).classifications ↔ name ∈ e.classifications ∨ .classify name = s := by
  cases s with
  | set n value =>
    rw [or_iff_left EntityStep.noConfusion]
    rfl
  | classify c =>
    have hinsert : name ∈ (e.step (.classify c)).classifications ↔
        name = c ∨ name ∈ e.classifications := NameSet.mem_insert
    rw [hinsert, EntityStep.classify.injEq, or_comm]

end Step

/-! ## Sequences of steps -/

/-- What is in an entity after steps from one that was empty. -/
structure Built (guid typeName : String) (steps : List EntityStep) (e : Entity) : Prop where
  /-- the identifier has not changed -/
  guid_eq : e.guid = guid
  /-- the type has not changed -/
  typeName_eq : e.typeName = typeName
  /-- the properties have the values that they were set to last -/
  property : ∀ name, e.property? name = lastValue? steps name
  /-- the classifications are those that were added -/
  classification : ∀ name, name ∈ e.classifications ↔ .classify name ∈ steps

section Built

variable {guid typeName : String} {steps steps' : List EntityStep} {e e' : Entity}

theorem built_new (guid typeName : String) : Built guid typeName [] (new guid typeName) where
  guid_eq := rfl
  typeName_eq := rfl
  property _ := rfl
  classification _ := iff_of_false List.not_mem_nil List.not_mem_nil

/-- After one more step, there is what the steps up to it have brought. -/
theorem Built.step (h : Built guid typeName steps e) (s : EntityStep) :
    Built guid typeName (steps ++ [s]) (e.step s) where
  guid_eq := (e.guid_step s).trans h.guid_eq
  typeName_eq := (e.typeName_step s).trans h.typeName_eq
  property name := by
    rw [property?_step, EntityStep.lastValue?_concat, h.property]
  classification name := by
    rw [mem_classifications_step, h.classification, List.mem_append, List.mem_singleton]

theorem Built.foldl_step (h : Built guid typeName steps e) (more : List EntityStep) :
    Built guid typeName (steps ++ more) (more.foldl Entity.step e) := by
  induction more generalizing steps e with
  | nil =>
    rw [List.append_nil]
    exact h
  | cons s more ih =>
    rw [List.foldl_cons, List.append_cons]
    exact ih (h.step s)

/-- **An entity has what its steps have brought.** -/
theorem built_build (guid typeName : String) (steps : List EntityStep) :
    Built guid typeName steps (build guid typeName steps) :=
  (built_new guid typeName).foldl_step steps

/-- There is one entity that has what agreeing steps bring. -/
theorem Built.eq_of_agree (h : Built guid typeName steps e) (h' : Built guid typeName steps' e')
    (hagree : Agree steps steps') : e = e' := by
  have hproperties : e.properties = e'.properties := by
    refine SortedMap.ext_get? fun name => ?_
    calc
      e.property? name = lastValue? steps name := h.property name
      _ = lastValue? steps' name := hagree.values name
      _ = e'.property? name := (h'.property name).symm
  have hclassifications : e.classifications = e'.classifications :=
    NameSet.ext_mem fun name =>
      (h.classification name).trans
        ((hagree.classifications name).trans (h'.classification name).symm)
  cases e
  cases e'
  rw [mk.injEq]
  exact ⟨h.guid_eq.trans h'.guid_eq.symm, h.typeName_eq.trans h'.typeName_eq.symm, hproperties,
    hclassifications⟩

/-- What steps bring can be told from the entity. -/
theorem Built.agree (h : Built guid typeName steps e) (h' : Built guid typeName steps' e) :
    Agree steps steps' where
  values name := (h.property name).symm.trans (h'.property name)
  classifications name := (h.classification name).symm.trans (h'.classification name)

end Built

/-- **The order in which an entity is built does not matter, up to overwriting.** Its identifier and
its type are those that it was begun with. A property has the value that it was set to last, or
none if it was not set; a classification is there if it was added, and each is listed once, in the
order of the bytes of their names. The header tells of every classification whether the entity has
it. Sequences that agree in the last values and in the classifications, and no others, build the
same entity, and so the same text is written for it. -/
theorem build_in_any_order (guid typeName : String) (steps : List EntityStep) :
    (build guid typeName steps).guid = guid ∧
    (build guid typeName steps).typeName = typeName ∧
    (∀ name, (build guid typeName steps).property? name = lastValue? steps name) ∧
    (∀ name, (build guid typeName steps).hasClassification name = true ↔
      .classify name ∈ steps) ∧
    (∀ name, name ∈ (build guid typeName steps).classificationNames ↔ .classify name ∈ steps) ∧
    ((build guid typeName steps).classificationNames.Pairwise
      fun a b => textBytes a < textBytes b) ∧
    (∀ name, (build guid typeName steps).header.hasClassification name =
      (build guid typeName steps).hasClassification name) ∧
    ∀ steps' : List EntityStep,
      (build guid typeName steps' = build guid typeName steps ↔ Agree steps' steps) ∧
      (Agree steps' steps →
        (build guid typeName steps').render = (build guid typeName steps).render) := by
  have hbuilt := built_build guid typeName steps
  refine ⟨hbuilt.guid_eq, hbuilt.typeName_eq, hbuilt.property, fun name => ?_,
    hbuilt.classification, ?_, fun _ => rfl, fun steps' => ?_⟩
  · exact NameSet.contains_iff_mem.trans (hbuilt.classification name)
  · exact (build guid typeName steps).classifications.sorted.imp textBytes_lt_iff.mpr
  · have hbuilt' := built_build guid typeName steps'
    have heq (hagree : Agree steps' steps) :
        build guid typeName steps' = build guid typeName steps := hbuilt'.eq_of_agree hbuilt hagree
    exact ⟨⟨fun h => (h ▸ hbuilt').agree hbuilt, heq⟩, fun hagree => congrArg render (heq hagree)⟩

/-- Steps that set a property twice, to values of different kinds, and repeat a classification. -/
def repeatingSteps : List EntityStep :=
  [.set "rows" (.int 1), .classify "Confidentiality", .set "owner" (.text "ann"),
    .classify "Asset", .set "rows" (.text "2"), .classify "Confidentiality"]

/-- Steps in another order that come to the same without repetition. -/
def reducedSteps : List EntityStep :=
  [.classify "Asset", .set "rows" (.text "2"), .classify "Confidentiality",
    .set "owner" (.text "ann")]

theorem build_reducedSteps :
    Agree reducedSteps repeatingSteps ∧
      build "t1" "RelationalTable" reducedSteps = build "t1" "RelationalTable" repeatingSteps ∧
      (build "t1" "RelationalTable" repeatingSteps).property? "rows" = some (.text "2") := by
  have hagree : Agree reducedSteps repeatingSteps :=
    { values := fun name => by
        by_cases hrows : "rows" = name
        · subst hrows
          rfl
        · by_cases howner : "owner" = name
          · subst howner
            rfl
          · simp [lastValue?, List.findSome?_cons, EntityStep.valueOf?, repeatingSteps,
              reducedSteps, hrows, howner]
      classifications := fun name => by
        simp +contextual [repeatingSteps, reducedSteps, or_comm] }
  obtain ⟨-, -, hproperty, -, -, -, -, hsame⟩ :=
    build_in_any_order "t1" "RelationalTable" repeatingSteps
  exact ⟨hagree, (hsame reducedSteps).1.2 hagree, hproperty "rows"⟩

end Entity

end RelationalCatalog
