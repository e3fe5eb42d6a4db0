import Mathlib.Data.List.Chain
import RelationalCatalog.Types.Assignability

/-!
# A type counts as what its super types lead to

`TypeRegistry.isAssignable_iff_exists_chain` says what `isAssignable` finds: the name itself and all
that a chain of registered types leads to, whether the names on the way are registered or not and
whether the chains meet again or run in circles.

Between two turns of the loop, a search has come some way (`Search.Underway`): the names that wait
are led to from its start, and what the names seen lead to was seen or waits, and is not the target.
`Search.Underway.turn` is the step, and `Search.Underway.answer` what the last turn comes to: the
target is led to if it is met, and if nothing waits any more, the names seen are all that is led to.
That there is a last turn is due to what is left to do (`turns_of_remaining_lt`).
-/

namespace RelationalCatalog

namespace TypeRegistry

open Relation (ReflTransGen)

variable {r : TypeRegistry} {name target : String}

/-- A registered type leads to each of its direct super types. -/
def LeadsTo (r : TypeRegistry) (name super : String) : Prop :=
  ∃ d ∈ r.descriptors, d.name = name ∧ super ∈ d.superTypeNames

theorem mem_superTypes_iff {super : String} : super ∈ r.superTypes name ↔ r.LeadsTo name super := by
  rw [superTypes]
  constructor
  · intro h
    cases hget : r.get? name with
    | none =>
      rw [hget] at h
      exact absurd h List.not_mem_nil
    | some d =>
      rw [hget] at h
      obtain ⟨hd, hname⟩ := get?_eq_some_iff.mp hget
      exact ⟨d, hd, hname, h⟩
  · rintro ⟨d, hd, hname, hsuper⟩
    rw [get?_eq_some_iff.mpr ⟨hd, hname⟩]
    exact hsuper

/-! ## The loop -/

/-- How far a search for a target has come from its start. -/
structure Search.Underway (r : TypeRegistry) (start target : String) (s : Search) : Prop where
  /-- the start was seen or waits -/
  start_mem : start ∈ s.seen ∨ start ∈ s.queue
  /-- what waits is led to from the start -/
  led : ∀ name ∈ s.queue, ReflTransGen r.LeadsTo start name
  /-- the names seen do not lead to the target -/
  missed : ∀ name ∈ s.seen, ¬ r.LeadsTo name target
  /-- what the names seen lead to was seen or waits -/
  explored : ∀ name ∈ s.seen, ∀ super, r.LeadsTo name super → super ∈ s.seen ∨ super ∈ s.queue

namespace Search

variable {start : String} {s s' : Search}

theorem underway_start (r : TypeRegistry) (start target : String) :
    (Search.start start).Underway r start target where
  start_mem := .inr (List.mem_singleton_self start)
  led := by
    intro name hname
    rw [List.mem_singleton.mp hname]
  missed name hname := absurd hname List.not_mem_nil
  explored name hname := absurd hname List.not_mem_nil

/-- A name that was seen leaves the queue. -/
theorem Underway.skip {seen queue : List String} {current : String}
    (h : Underway r start target ⟨seen, current :: queue⟩) (hseen : current ∈ seen) :
    Underway r start target ⟨seen, queue⟩ := by
  have hstays : ∀ name, name ∈ seen ∨ name ∈ current :: queue → name ∈ seen ∨ name ∈ queue := by
    rintro name (hname | hname)
    · exact .inl hname
    · rcases List.mem_cons.mp hname with rfl | hname
      · exact .inl hseen
      · exact .inr hname
  exact {
    start_mem := hstays start h.start_mem
    led := fun name hname => h.led name (List.mem_cons_of_mem _ hname)
    missed := h.missed
    explored := fun name hname super hsuper => hstays super (h.explored name hname super hsuper) }

/-- A name that was not seen is seen, and its super types wait. -/
theorem Underway.expand {seen queue : List String} {current : String}
    (h : Underway r start target ⟨seen, current :: queue⟩)
    (htarget : target ∉ r.superTypes current) :
    Underway r start target ⟨current :: seen, queue ++ r.superTypes current⟩ := by
  have hstays : ∀ name, name ∈ seen ∨ name ∈ current :: queue →
      name ∈ current :: seen ∨ name ∈ queue ++ r.superTypes current := by
    rintro name (hname | hname)
    · exact .inl (List.mem_cons_of_mem _ hname)
    · rcases List.mem_cons.mp hname with rfl | hname
      · exact .inl List.mem_cons_self
      · exact .inr (List.mem_append_left _ hname)
  have hled : ReflTransGen r.LeadsTo start current := h.led current List.mem_cons_self
  exact {
    start_mem := hstays start h.start_mem
    led := by
      intro name hname
      rcases List.mem_append.mp hname with hname | hname
      · exact h.led name (List.mem_cons_of_mem _ hname)
      · exact hled.tail (mem_superTypes_iff.mp hname)
    missed := by
      intro name hname
      rcases List.mem_cons.mp hname with rfl | hname
      · exact fun hleads => htarget (mem_superTypes_iff.mpr hleads)
      · exact h.missed name hname
    explored := by
      intro name hname super hsuper
      rcases List.mem_cons.mp hname with rfl | hname
      · exact .inr (List.mem_append_right _ (mem_superTypes_iff.mpr hsuper))
      · exact hstays super (h.explored name hname super hsuper) }

/-- A search stays underway with every turn. -/
theorem Underway.turn (h : s.Underway r start target) (hturn : r.turn target s = .goesOn s') :
    s'.Underway r start target := by
  obtain ⟨seen, _ | ⟨current, queue⟩⟩ := s
  · cases hturn
  · by_cases hseen : current ∈ seen
    · rw [turn_of_mem hseen] at hturn
      cases hturn
      exact h.skip hseen
    · rw [turn_of_notMem hseen] at hturn
      split at hturn
      · cases hturn
      · rename_i htarget
        cases hturn
        exact h.expand htarget

/-- When nothing waits any more, all that is led to was seen. -/
theorem Underway.mem_seen {seen : List String} (h : Underway r start target ⟨seen, []⟩)
    (hled : ReflTransGen r.LeadsTo start name) : name ∈ seen := by
  induction hled with
  | refl => exact h.start_mem.resolve_right List.not_mem_nil
  | tail _ hleads ih => exact (h.explored _ ih _ hleads).resolve_right List.not_mem_nil

/-- The last turn tells whether the target is led to. -/
theorem Underway.answer (h : s.Underway r start target) (hne : start ≠ target) {answer : Bool}
    (hturn : r.turn target s = .ends answer) :
    answer = true ↔ ReflTransGen r.LeadsTo start target := by
  obtain ⟨seen, _ | ⟨current, queue⟩⟩ := s
  · cases hturn
    refine iff_of_false Bool.false_ne_true fun hled => ?_
    -- The last name before the target was seen, and so the target was met.
    rcases hled.cases_tail with heq | ⟨last, hlast, hleads⟩
    · exact hne heq.symm
    · exact h.missed last (h.mem_seen hlast) hleads
  · by_cases hseen : current ∈ seen
    · rw [turn_of_mem hseen] at hturn
      cases hturn
    · rw [turn_of_notMem hseen] at hturn
      split at hturn
      · rename_i htarget
        cases hturn
        refine iff_of_true rfl ?_
        exact (h.led current List.mem_cons_self).tail (mem_superTypes_iff.mp htarget)
      · cases hturn

end Search

section Search

variable {start : String} {s s' : Search}

theorem search_of_ends {answer : Bool} (h : r.turn target s = .ends answer) :
    r.search target s = answer := by
  rw [search]
  split
  · rename_i hturn
    exact Turn.ends.inj (hturn.symm.trans h)
  · rename_i hturn
    cases hturn.symm.trans h

theorem search_of_goesOn (h : r.turn target s = .goesOn s') :
    r.search target s = r.search target s' := by
  rw [search]
  split
  · rename_i hturn
    cases hturn.symm.trans h
  · rename_i hturn
    rw [Turn.goesOn.inj (hturn.symm.trans h)]

/-- A search that is underway finds out whether the target is led to. -/
theorem search_eq_true_iff (h : s.Underway r start target) (hne : start ≠ target) :
    r.search target s = true ↔ ReflTransGen r.LeadsTo start target := by
  induction s using search.induct r target with
  | case1 s answer hturn =>
    rw [search_of_ends hturn]
    exact h.answer hne hturn
  | case2 s s' hturn ih =>
    rw [search_of_goesOn hturn]
    exact ih (h.turn hturn)

/-- What a search comes to in a number of turns. -/
def turns (r : TypeRegistry) (target : String) : Nat → Search → Turn
  | 0, s => .goesOn s
  | n + 1, s =>
    match r.turn target s with
    | .ends answer => .ends answer
    | .goesOn s' => r.turns target n s'

/-- In more turns than are left a search comes to its end. -/
theorem turns_of_remaining_lt {n : Nat} (h : s.remaining r < n) :
    r.turns target n s = .ends (r.search target s) := by
  induction n generalizing s with
  | zero => exact absurd h (Nat.not_lt_zero _)
  | succ n ih =>
    rw [turns]
    cases hturn : r.turn target s with
    | ends answer => rw [search_of_ends hturn]
    | goesOn s' =>
      have hless := Search.remaining_lt_of_turn hturn
      rw [search_of_goesOn hturn]
      exact ih (Nat.lt_of_lt_of_le hless (Nat.le_of_lt_succ h))

end Search

/-! ## What is found -/

theorem isAssignable_iff_reflTransGen :
    r.isAssignable name target = true ↔ ReflTransGen r.LeadsTo name target := by
  rw [isAssignable]
  by_cases heq : name = target
  · subst heq
    exact iff_of_true (if_pos rfl) .refl
  · rw [if_neg heq]
    exact search_eq_true_iff (Search.underway_start r name target) heq

/-- At the start no type was seen, and one name waits. -/
theorem remaining_start (r : TypeRegistry) (name : String) :
    (Search.start name).remaining r = (r.descriptors.flatMap (·.superTypeNames)).length + 1 := by
  have hall : ∀ ds : List TypeDescriptor,
      allSuperTypesLeft [] ds = (ds.flatMap (·.superTypeNames)).length := by
    intro ds
    induction ds with
    | nil => rfl
    | cons d rest ih =>
      rw [allSuperTypesLeft, superTypesLeft_of_notMem List.not_mem_nil, ih, List.flatMap_cons,
        List.length_append]
  exact congrArg (· + 1) (hall r.descriptors)

/-- **A type counts as another one just if they are the same or a chain leads from one to the
other**, in which every name but the last is a registered type that has the next one among its
super types. The loop that looks for the chain always ends: with the answer, after at most two more
turns than there are super types declared. -/
theorem isAssignable_iff_exists_chain (r : TypeRegistry) (actual target : String) :
    (r.isAssignable actual target = true ↔
      actual = target ∨ ∃ names : List String, names ≠ [] ∧
        (actual :: names).IsChain (fun name super =>
          ∃ d ∈ r.descriptors, d.name = name ∧ super ∈ d.superTypeNames) ∧
        names.getLast? = some target) ∧
    (actual ≠ target → ∀ n, (r.descriptors.flatMap (·.superTypeNames)).length + 2 ≤ n →
      r.turns target n (.start actual) = .ends (r.isAssignable actual target)) := by
  refine ⟨?_, fun hne n hn => ?_⟩
  · rw [isAssignable_iff_reflTransGen]
    constructor
    · intro h
      obtain ⟨names, hchain, hlast⟩ := List.exists_isChain_cons_of_relationReflTransGen h
      cases names with
      | nil => exact .inl hlast
      | cons first rest =>
        rw [List.getLast_cons_cons] at hlast
        refine .inr ⟨first :: rest, List.cons_ne_nil _ _, hchain, ?_⟩
        rw [List.getLast?_eq_some_getLast (List.cons_ne_nil _ _), hlast]
    · rintro (rfl | ⟨names, hne, hchain, hlast⟩)
      · exact .refl
      · refine List.relationReflTransGen_of_exists_isChain_cons names hchain ?_
        rw [List.getLast_cons hne]
        exact List.getLast_of_getLast?_eq_some hlast
  · rw [isAssignable, if_neg hne]
    refine turns_of_remaining_lt ?_
    rw [remaining_start]
    exact hn

/-- Two types that are super types of each other, one of them also of a name without a type. -/
def mutualTypes : TypeRegistry :=
  ofDistinct [⟨"View", "", ["Table", "Table"]⟩, ⟨"Table", "", ["View", "Asset"]⟩] (by decide)

/-- A circle of types leads out of itself, and the loop ends although it looks for a name that is
not to be found. -/
theorem isAssignable_of_mutualTypes :
    mutualTypes.isAssignable "View" "Asset" = true ∧
      mutualTypes.turns "Asset" 6 (.start "View") = .ends true ∧
      mutualTypes.turns "Column" 6 (.start "View") = .ends false := by
  obtain ⟨hiff, hends⟩ := isAssignable_iff_exists_chain mutualTypes "View" "Asset"
  have hasset : mutualTypes.isAssignable "View" "Asset" = true := by
    refine hiff.mpr (.inr ⟨["Table", "Asset"], List.cons_ne_nil _ _, ?_, rfl⟩)
    simp [mutualTypes]
  have hcolumn : mutualTypes.isAssignable "View" "Column" = false := by decide
  refine ⟨hasset, ?_, ?_⟩
  · rw [← hasset]
    exact hends (by decide) 6 (by decide)
  · rw [← hcolumn]
    exact (isAssignable_iff_exists_chain mutualTypes "View" "Column").2 (by decide) 6 (by decide)

end TypeRegistry

end RelationalCatalog
