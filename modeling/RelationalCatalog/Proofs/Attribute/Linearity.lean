import RelationalCatalog.Proofs.Attribute.Table

/-!
# Attributes are read once

An access takes its attribute out of the set, of whatever kind the value is. So only the first
access that names an attribute can find its value, and it does so if the value is of the kind that
it asks for (`Attributes.Finds`). All others get the default of their accessor.

What later accesses meet is described by the names of the earlier ones (`Attributes.Left`). An
access keeps this description, so it holds along a whole sequence of accesses, and
`Attributes.readings_linear` says what is seen of each of them. What is answered for one name does
not depend on the accesses to other names (`Attributes.answersTo_readings`).
-/

namespace RelationalCatalog

namespace Attributes

/-! ## Accessors -/

/-- The ways to access an attribute. -/
inductive Accessor
  | text
  | text?
  | int
  | boolOr (default : Bool)
  | date?
  | symbol?

namespace Accessor

/-- What is answered by an accessor. -/
def Answer : Accessor → Type
  | text => String
  | text? => Option String
  | int => Int64
  | boolOr _ => Bool
  | date? => Option Instant
  | symbol? => Option String

/-- The answer where no value is found. -/
def default : (a : Accessor) → a.Answer
  | text => ""
  | text? => none
  | int => (0 : Int64)
  | boolOr default => default
  | date? => none
  | symbol? => none

/-- The answer where a value is found, which must be of the kind that the accessor is for. -/
def content? : (a : Accessor) → AttributeValue → Option a.Answer
  | text, .text s => some s
  | text?, .text s => some (some s)
  | int, .int n => some n
  | boolOr _, .bool b => some b
  | date?, .date t => some (some t)
  | symbol?, .symbol s => some (some s)
  | _, _ => none

/-- Accesses the attribute of a name. -/
def perform : (a : Accessor) → String → StateM Attributes a.Answer
  | text => Attributes.text
  | text? => Attributes.text?
  | int => Attributes.int
  | boolOr default => (Attributes.boolOr · default)
  | date? => Attributes.date?
  | symbol? => Attributes.symbol?

/-- The answer for what is stored: the content of a value of the kind, or else the default. -/
def answer (a : Accessor) (stored : Option AttributeValue) : a.Answer :=
  (stored.bind a.content?).getD a.default

/-- An accessor answers what it reads from a value, whatever the kind of that. -/
theorem answer_eq (a : Accessor) (stored : Option AttributeValue) :
    a.answer stored =
      match a with
      | text => ((stored.bind AttributeValue.text?).getD "" : String)
      | text? => stored.bind AttributeValue.text?
      | int => ((stored.bind AttributeValue.int?).getD 0 : Int64)
      | boolOr default => (stored.bind AttributeValue.bool?).getD default
      | date? => stored.bind AttributeValue.date?
      | symbol? => stored.bind AttributeValue.symbol? := by
  cases a <;> rcases stored with _ | (_ | _ | _ | _ | _) <;> rfl

/-- All accessors have one form: each of them answers for what is stored, and takes it out. -/
theorem run_perform (a : Accessor) (name : String) (as : Attributes) :
    (a.perform name).run as = (a.answer (as.values.get? name), as.without name) := by
  rw [answer_eq]
  cases a <;> rfl

end Accessor

/-! ## Accesses -/

/-- An access to the attribute of a name. -/
structure Access where
  accessor : Accessor
  name : String

/-- What is seen of an access: the answer to it, and what there is after it. -/
structure Reading where
  access : Access
  answer : access.accessor.Answer
  /-- The number of attributes after the access. -/
  size : Nat
  /-- Whether there is no attribute after the access. -/
  isEmpty : Bool

/-- Makes an access and looks at what is left. -/
def Access.perform (x : Access) : StateM Attributes Reading := do
  let answer ← x.accessor.perform x.name
  let left ← get
  return ⟨x, answer, left.size, left.isEmpty⟩

/-- What is seen of accesses that are made one after the other. -/
def readings (as : Attributes) (accesses : List Access) : List Reading :=
  ((accesses.mapM Access.perform).run as).1

/-- What is seen of an access to attributes. -/
def reading (as : Attributes) (x : Access) : Reading :=
  ⟨x, x.accessor.answer (as.values.get? x.name), (as.without x.name).size,
    (as.without x.name).isEmpty⟩

theorem readings_nil (as : Attributes) : as.readings [] = [] := rfl

/-- The first access meets all attributes, and the others what it leaves. -/
theorem readings_cons (as : Attributes) (x : Access) (rest : List Access) :
    as.readings (x :: rest) = as.reading x :: (as.without x.name).readings rest := by
  have hrun : x.perform.run as = (as.reading x, as.without x.name) := by
    rw [Access.perform, run_bind, Accessor.run_perform]
    rfl
  rw [readings, List.mapM_cons, run_bind, hrun]
  rfl

theorem map_access_readings (as : Attributes) (accesses : List Access) :
    (as.readings accesses).map (·.access) = accesses := by
  induction accesses generalizing as with
  | nil => rfl
  | cons x rest ih => rw [readings_cons, List.map_cons, ih, reading]

/-! ## What is left -/

/-- The names of attributes that no access has named. -/
def unread (as : Attributes) (accesses : List Access) : List String :=
  as.values.names.filter fun name => decide (name ∉ accesses.map (·.name))

/-- What is left of attributes after accesses to them: those that no access has named. -/
structure Left (as : Attributes) (earlier : List Access) (left : Attributes) : Prop where
  get?_eq : ∀ name, left.values.get? name =
    if name ∈ earlier.map (·.name) then none else as.values.get? name
  names_eq : left.values.names = as.unread earlier

theorem left_start (as : Attributes) : Left as [] as where
  get?_eq _ := rfl
  names_eq := (List.filter_eq_self.mpr fun _ _ => rfl).symm

theorem names_without (as : Attributes) (name : String) :
    (as.without name).values.names = as.values.names.filter fun other => !(other == name) := by
  rw [SortedMap.names, SortedMap.names, List.filter_map]
  rfl

section Left

variable {as left : Attributes} {earlier : List Access}

/-- An access leaves what no access up to it has named. -/
theorem Left.without (h : Left as earlier left) (x : Access) :
    Left as (earlier ++ [x]) (left.without x.name) where
  get?_eq name := by
    rw [List.map_append, List.map_singleton]
    by_cases hname : name = x.name
    · rw [hname, get?_without_self, if_pos (List.mem_append_right _ List.mem_cons_self)]
    · have hmem : name ∈ earlier.map (·.name) ++ [x.name] ↔ name ∈ earlier.map (·.name) := by
        rw [List.mem_append, List.mem_singleton, or_iff_left hname]
      rw [get?_without_of_ne left hname, h.get?_eq]
      simp only [hmem]
  names_eq := by
    -- The names of all accesses so far are passed over, and then that of this one.
    rw [names_without, h.names_eq, unread, unread, List.filter_filter, List.map_append,
      List.map_singleton]
    refine List.filter_congr fun name _ => ?_
    simp only [List.mem_append, List.mem_singleton, not_or, Bool.decide_and, decide_not]
    rw [Bool.and_comm]
    rfl

theorem Left.size_eq (h : Left as earlier left) : left.size = (as.unread earlier).length := by
  rw [← h.names_eq, SortedMap.names, List.length_map, size, SortedMap.size]

end Left

/-! ## What is found -/

/-- Whether the attribute that an access names has a value of the accessor's kind, with a content. -/
def Holds (as : Attributes) (x : Access) (content : x.accessor.Answer) : Prop :=
  ∃ v, as.values.get? x.name = some v ∧ x.accessor.content? v = some content

/-- What is answered to an access after others. -/
inductive Finds (as : Attributes) (earlier : List Access) (x : Access) :
    x.accessor.Answer → Prop
  /-- The first access that names an attribute finds a value of its kind. -/
  | stored {content : x.accessor.Answer} (hfirst : x.name ∉ earlier.map (·.name))
    (hholds : as.Holds x content) : Finds as earlier x content
  /-- All others get the default of their accessor, and so does the first one where there is no value
  of its kind. -/
  | default (hnot : x.name ∉ earlier.map (·.name) → ∀ content, ¬ as.Holds x content) :
    Finds as earlier x x.accessor.default

/-- What is seen of an access after others. -/
structure Reading.Linear (r : Reading) (as : Attributes) (earlier : List Access) : Prop where
  /-- the answer is what the access finds -/
  finds : Finds as earlier r.access r.answer
  /-- if this is not the default, then only the first access to the attribute answers it -/
  eq_iff : ∀ content, as.Holds r.access content → content ≠ r.access.accessor.default →
    (r.answer = content ↔ r.access.name ∉ earlier.map (·.name))
  /-- as many attributes are left as no access up to this one has named -/
  size_eq : r.size = (as.unread (earlier ++ [r.access])).length
  /-- it is said that none is left just if their number is zero -/
  isEmpty_iff : r.isEmpty = true ↔ r.size = 0

section Finds

variable {as left : Attributes} {earlier : List Access} {x : Access}

theorem holds_iff {content : x.accessor.Answer} :
    as.Holds x content ↔
      (as.values.get? x.name).bind x.accessor.content? = some content :=
  Option.bind_eq_some_iff.symm

theorem Holds.unique {content content' : x.accessor.Answer} (h : as.Holds x content)
    (h' : as.Holds x content') : content = content' :=
  Option.some.inj ((holds_iff.mp h).symm.trans (holds_iff.mp h'))

/-- The content of a value is answered if there is one of the kind, and else the default. -/
theorem answer_cases (as : Attributes) (x : Access) :
    as.Holds x (x.accessor.answer (as.values.get? x.name)) ∨
      x.accessor.answer (as.values.get? x.name) = x.accessor.default ∧
        ∀ content, ¬ as.Holds x content := by
  rw [Accessor.answer]
  cases hfound : (as.values.get? x.name).bind x.accessor.content? with
  | some content => exact .inl (holds_iff.mpr hfound)
  | none =>
    refine .inr ⟨rfl, fun content hholds => ?_⟩
    rw [holds_iff, hfound] at hholds
    cases hholds

/-- What is left decides what an access finds. -/
theorem Left.finds (h : Left as earlier left) (x : Access) :
    Finds as earlier x (x.accessor.answer (left.values.get? x.name)) := by
  rw [h.get?_eq]
  by_cases hearlier : x.name ∈ earlier.map (·.name)
  · rw [if_pos hearlier]
    exact .default fun hfirst => absurd hearlier hfirst
  · rw [if_neg hearlier]
    rcases as.answer_cases x with hholds | ⟨hdefault, hnot⟩
    · exact .stored hearlier hholds
    · rw [hdefault]
      exact .default fun _ => hnot

theorem Finds.eq_iff {answer content : x.accessor.Answer} (h : Finds as earlier x answer)
    (hholds : as.Holds x content) (hne : content ≠ x.accessor.default) :
    answer = content ↔ x.name ∉ earlier.map (·.name) := by
  cases h with
  | stored hfirst hholds' => exact iff_of_true (hholds'.unique hholds) hfirst
  | default hnot => exact iff_of_false (Ne.symm hne) fun hfirst => hnot hfirst content hholds

/-- What is seen of one access. -/
theorem Left.linear_reading (h : Left as earlier left) (x : Access) :
    (left.reading x).Linear as earlier where
  finds := h.finds x
  eq_iff _ hholds hne := (h.finds x).eq_iff hholds hne
  size_eq := (h.without x).size_eq
  isEmpty_iff := List.isEmpty_iff_length_eq_zero

/-- What is seen of each of a sequence of accesses. All that the later ones meet is what no earlier
one has named. -/
theorem Left.linear_readings (h : Left as earlier left) {accesses : List Access}
    {before : List Reading} {r : Reading} {after : List Reading}
    (hsplit : left.readings accesses = before ++ r :: after) :
    r.Linear as (earlier ++ before.map (·.access)) := by
  induction accesses generalizing left earlier before with
  | nil => simp [readings_nil] at hsplit
  | cons x rest ih =>
    rw [readings_cons] at hsplit
    cases before with
    | nil =>
      obtain ⟨rfl, -⟩ := List.cons.inj hsplit
      rw [List.map_nil, List.append_nil]
      exact h.linear_reading x
    | cons first before =>
      obtain ⟨rfl, hrest⟩ := List.cons.inj hsplit
      rw [List.map_cons, List.append_cons]
      exact ih (h.without x) hrest

end Finds

/-! ## Names by themselves -/

/-- The accesses to the attribute of a name, with the answers to them. -/
def answersTo (name : String) (rs : List Reading) : List ((x : Access) × x.accessor.Answer) :=
  (rs.filter fun r => r.access.name == name).map fun r => ⟨r.access, r.answer⟩

theorem answersTo_cons_self (r : Reading) (rs : List Reading) :
    answersTo r.access.name (r :: rs) =
      ⟨r.access, r.answer⟩ :: answersTo r.access.name rs := by
  rw [answersTo, List.filter_cons, if_pos (beq_self_eq_true r.access.name)]
  rfl

theorem answersTo_cons_of_ne {name : String} {r : Reading} (h : r.access.name ≠ name)
    (rs : List Reading) : answersTo name (r :: rs) = answersTo name rs := by
  rw [answersTo, List.filter_cons, if_neg fun heq => h (eq_of_beq heq)]
  rfl

/-- **The answers for one name do not depend on accesses to other names**, nor on what is stored
under other names. -/
theorem answersTo_readings {as as' : Attributes} {name : String}
    (h : as.values.get? name = as'.values.get? name) (accesses : List Access) :
    answersTo name (as.readings accesses) =
      answersTo name (as'.readings (accesses.filter fun x => x.name == name)) := by
  induction accesses generalizing as as' with
  | nil => rfl
  | cons x rest ih =>
    by_cases hname : x.name = name
    · subst hname
      have hleft : (as.without x.name).values.get? x.name =
          (as'.without x.name).values.get? x.name := by
        rw [get?_without_self, get?_without_self]
      rw [List.filter_cons, if_pos (beq_self_eq_true x.name), readings_cons, readings_cons]
      calc
        answersTo x.name (as.reading x :: (as.without x.name).readings rest)
        _ = ⟨x, x.accessor.answer (as.values.get? x.name)⟩ ::
              answersTo x.name ((as.without x.name).readings rest) :=
            answersTo_cons_self (as.reading x) _
        _ = ⟨x, x.accessor.answer (as'.values.get? x.name)⟩ ::
              answersTo x.name
                ((as'.without x.name).readings (rest.filter fun y => y.name == x.name)) := by
            rw [h, ih hleft]
        _ = _ := (answersTo_cons_self (as'.reading x) _).symm
    · have hleft : (as.without x.name).values.get? name = as'.values.get? name := by
        rw [get?_without_of_ne as (Ne.symm hname), h]
      rw [List.filter_cons, if_neg fun heq => hname (eq_of_beq heq), readings_cons,
        answersTo_cons_of_ne hname]
      exact ih hleft

/-! ## Attributes of an entity -/

/-- **Attributes of an entity are read once.** What a table takes from an entity can be accessed in
any sequence. Of the accesses that name an attribute, the first one answers its value, if it has
one of the kind of the accessor, and all others answer their defaults. After each access, as many
attributes are left as no access up to it has named. The answers for one name are the same without
the accesses to other names. -/
theorem readings_linear {e : Entity} {specs : List AttributeSpec} {as : Attributes}
    (h : ofEntity e specs = .ok as) (accesses : List Access) :
    (∀ name v, as.values.get? name = some v ↔
      ∃ spec p, lastSpec? specs name = some spec ∧ e.property? name = some p ∧
        coerce p spec.kind = .ok (some v)) ∧
    (as.readings accesses).map (·.access) = accesses ∧
    (∀ before r after, as.readings accesses = before ++ r :: after →
      r.Linear as (before.map (·.access))) ∧
    ∀ name, answersTo name (as.readings accesses) =
      answersTo name (as.readings (accesses.filter fun x => x.name == name)) :=
  ⟨fun _ _ => get?_eq_some_iff_coerce h, as.map_access_readings accesses,
    fun _ _ _ hsplit => as.left_start.linear_readings hsplit,
    fun _ => answersTo_readings rfl accesses⟩

/-- A widget with a label and a weight. -/
def labelledWidget : Entity :=
  ((Entity.new "w1" "Widget").withProperty "label" (.text "first")).withProperty "weight" (.int 7)

/-- An integer is read once, and a text is lost to an access that asks for an integer. -/
theorem readings_labelledWidget :
    ∃ as, ofEntity labelledWidget [.needed "label" .text, .optional "weight" .int] = .ok as ∧
      as.readings [⟨.int, "label"⟩, ⟨.text, "label"⟩, ⟨.int, "weight"⟩, ⟨.int, "weight"⟩] =
        [⟨⟨.int, "label"⟩, (0 : Int64), 1, false⟩, ⟨⟨.text, "label"⟩, "", 1, false⟩,
          ⟨⟨.int, "weight"⟩, (7 : Int64), 0, true⟩, ⟨⟨.int, "weight"⟩, (0 : Int64), 0, true⟩] ∧
      Reading.Linear ⟨⟨.int, "weight"⟩, (7 : Int64), 0, true⟩ as
        [⟨.int, "label"⟩, ⟨.text, "label"⟩] := by
  have hof : ofEntity labelledWidget [.needed "label" .text, .optional "weight" .int] =
      .ok ⟨⟨[("label", .text "first"), ("weight", .int 7)], by decide⟩⟩ := rfl
  obtain ⟨-, -, hlinear, -⟩ := readings_linear hof
    [⟨.int, "label"⟩, ⟨.text, "label"⟩, ⟨.int, "weight"⟩, ⟨.int, "weight"⟩]
  exact ⟨_, hof, rfl, hlinear [_, _] _ _ rfl⟩

end Attributes

end RelationalCatalog
