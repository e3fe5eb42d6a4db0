import RelationalCatalog.Types.Registry

/-!
# Which types count as a type

An entity of one type counts as one of another if super types lead from the first to the second.
`isAssignable` looks for the way there. The names still to be looked at wait in a queue, which may
have a name many times and names of no type. Every name gets one turn only and is passed over when
it comes up again, so circles of types do no harm.

What is left to do is bounded by the super types of the types that had no turn yet and by the
length of the queue (`Search.remaining`). A turn takes away a name of the queue and moves at most
the super types of one type from the first to the second (`Search.remaining_lt_of_turn`).
-/

namespace RelationalCatalog

namespace TypeRegistry

/-- A search along super types, between two turns of its loop. -/
structure Search where
  /-- The names that had their turn. -/
  seen : List String
  /-- The names that wait for theirs. -/
  queue : List String
deriving DecidableEq

/-- What a turn of the loop comes to. -/
inductive Turn
  /-- The search goes on. -/
  | goesOn (s : Search)
  /-- The search has its answer. -/
  | ends (answer : Bool)
deriving DecidableEq

/-- The search that starts at a name. -/
def Search.start (name : String) : Search := ⟨[], [name]⟩

/-- Puts super types at the end of a queue, one after the other. There is no queue any more as soon
as one of them is the target. -/
def enqueue (target : String) (queue : List String) : List String → Option (List String)
  | [] => some queue
  | super :: rest => if super = target then none else enqueue target (queue ++ [super]) rest

/-- One turn of the loop, in which the first name of the queue is looked at. -/
def turn (r : TypeRegistry) (target : String) (s : Search) : Turn :=
  match s.queue with
  | [] => .ends false
  | current :: queue =>
    if s.seen.contains current then .goesOn ⟨s.seen, queue⟩
    else
      match r.get? current with
      | none => .goesOn ⟨current :: s.seen, queue⟩
      | some d =>
        match enqueue target queue d.superTypeNames with
        | none => .ends true
        | some queue => .goesOn ⟨current :: s.seen, queue⟩

/-! ## What a turn does -/

/-- The direct super types of a name; a name that is not registered has none. -/
def superTypes (r : TypeRegistry) (name : String) : List String :=
  match r.get? name with
  | some d => d.superTypeNames
  | none => []

theorem enqueue_eq (target : String) (queue supers : List String) :
    enqueue target queue supers = if target ∈ supers then none else some (queue ++ supers) := by
  induction supers generalizing queue with
  | nil => rw [enqueue, if_neg List.not_mem_nil, List.append_nil]
  | cons super rest ih =>
    rw [enqueue]
    by_cases heq : super = target
    · rw [if_pos heq, if_pos (List.mem_cons.mpr (.inl heq.symm))]
    · have hmem : target ∈ super :: rest ↔ target ∈ rest := by
        rw [List.mem_cons, or_iff_right (Ne.symm heq)]
      rw [if_neg heq, ih, List.append_assoc, List.singleton_append]
      simp only [hmem]

section Turn

variable {r : TypeRegistry} {target current : String} {seen queue : List String}

/-- A name that had its turn is passed over. -/
theorem turn_of_mem (h : current ∈ seen) :
    r.turn target ⟨seen, current :: queue⟩ = .goesOn ⟨seen, queue⟩ :=
  if_pos (List.contains_iff_mem.mpr h)

/-- The super types of a name that had no turn yet are compared with the target and wait then. -/
theorem turn_of_notMem (h : current ∉ seen) :
    r.turn target ⟨seen, current :: queue⟩ =
      if target ∈ r.superTypes current then .ends true
      else .goesOn ⟨current :: seen, queue ++ r.superTypes current⟩ := by
  have hseen : ¬ seen.contains current = true := fun hmem => h (List.contains_iff_mem.mp hmem)
  rw [turn, superTypes]
  simp only [if_neg hseen]
  cases r.get? current with
  | none => rw [if_neg List.not_mem_nil, List.append_nil]
  | some d =>
    simp only [enqueue_eq]
    by_cases htarget : target ∈ d.superTypeNames
    · rw [if_pos htarget, if_pos htarget]
    · rw [if_neg htarget, if_neg htarget]

end Turn

/-! ## What is left to do -/

/-- How many super types a type declares, unless it was seen. -/
def superTypesLeft (seen : List String) (d : TypeDescriptor) : Nat :=
  if d.name ∈ seen then 0 else d.superTypeNames.length

/-- How many super types the types of a list declare that were not seen. -/
def allSuperTypesLeft (seen : List String) : List TypeDescriptor → Nat
  | [] => 0
  | d :: rest => superTypesLeft seen d + allSuperTypesLeft seen rest

/-- A bound on the turns that a search still takes. -/
def Search.remaining (r : TypeRegistry) (s : Search) : Nat :=
  allSuperTypesLeft s.seen r.descriptors + s.queue.length

section Left

variable {name : String} {seen : List String} {d : TypeDescriptor} {ds : List TypeDescriptor}

theorem superTypesLeft_of_mem (h : d.name ∈ seen) : superTypesLeft seen d = 0 := if_pos h

theorem superTypesLeft_of_notMem (h : d.name ∉ seen) :
    superTypesLeft seen d = d.superTypeNames.length := if_neg h

theorem superTypesLeft_cons_le : superTypesLeft (name :: seen) d ≤ superTypesLeft seen d := by
  by_cases h : d.name ∈ name :: seen
  · rw [superTypesLeft_of_mem h]
    exact Nat.zero_le _
  · have hseen : d.name ∉ seen := fun hmem => h (List.mem_cons_of_mem _ hmem)
    exact Nat.le_of_eq
      ((superTypesLeft_of_notMem h).trans (superTypesLeft_of_notMem hseen).symm)

theorem allSuperTypesLeft_cons_le : allSuperTypesLeft (name :: seen) ds ≤
    allSuperTypesLeft seen ds := by
  induction ds with
  | nil => exact Nat.le_refl _
  | cons d rest ih => exact Nat.add_le_add superTypesLeft_cons_le ih

/-- When a type is seen, its super types are no longer counted. -/
theorem allSuperTypesLeft_cons_add_le (hd : d ∈ ds) (hseen : d.name ∉ seen) :
    allSuperTypesLeft (d.name :: seen) ds + d.superTypeNames.length ≤
      allSuperTypesLeft seen ds := by
  induction ds with
  | nil => cases hd
  | cons e rest ih =>
    rw [allSuperTypesLeft, allSuperTypesLeft]
    rcases List.mem_cons.mp hd with rfl | hd
    · have hrest : allSuperTypesLeft (d.name :: seen) rest ≤ allSuperTypesLeft seen rest :=
        allSuperTypesLeft_cons_le
      rw [superTypesLeft_of_mem List.mem_cons_self, superTypesLeft_of_notMem hseen]
      omega
    · have hhead : superTypesLeft (d.name :: seen) e ≤ superTypesLeft seen e :=
        superTypesLeft_cons_le
      have hrest := ih hd
      omega

end Left

/-- What a name that was not seen leads to is paid for by what is left. -/
theorem allSuperTypesLeft_add_superTypes_le {r : TypeRegistry} {current : String}
    {seen : List String} (hseen : current ∉ seen) :
    allSuperTypesLeft (current :: seen) r.descriptors + (r.superTypes current).length ≤
      allSuperTypesLeft seen r.descriptors := by
  rw [superTypes]
  cases hget : r.get? current with
  | none => exact allSuperTypesLeft_cons_le
  | some d =>
    obtain ⟨hd, rfl⟩ := get?_eq_some_iff.mp hget
    exact allSuperTypesLeft_cons_add_le hd hseen

/-- **A turn leaves less to do.** -/
theorem Search.remaining_lt_of_turn {r : TypeRegistry} {target : String} {s s' : Search}
    (h : r.turn target s = .goesOn s') : s'.remaining r < s.remaining r := by
  obtain ⟨seen, _ | ⟨current, queue⟩⟩ := s
  · cases h
  · rw [remaining, remaining]
    by_cases hseen : current ∈ seen
    · rw [turn_of_mem hseen] at h
      cases h
      exact Nat.add_lt_add_left (Nat.lt_succ_self _) _
    · have hle := allSuperTypesLeft_add_superTypes_le (r := r) hseen
      rw [turn_of_notMem hseen] at h
      split at h
      · cases h
      · cases h
        simp only [List.length_append, List.length_cons]
        omega

/-! ## The search -/

/-- Turns the loop until it ends. Semireducible, so that searches in a given registry evaluate. -/
@[semireducible]
def search (r : TypeRegistry) (target : String) (s : Search) : Bool :=
  match _h : r.turn target s with
  | .ends answer => answer
  | .goesOn s' => r.search target s'
termination_by s.remaining r
decreasing_by exact Search.remaining_lt_of_turn _h

/-- Whether an entity of the type `actual` counts as one of the type `target`: they are the same
or super types lead from one to the other. -/
def isAssignable (r : TypeRegistry) (actual target : String) : Bool :=
  if actual = target then true else r.search target (.start actual)

/-- A name and the registered types that count as it, in the order of their declaration. -/
def assignableTypeNames (r : TypeRegistry) (target : String) : List String :=
  target :: (r.descriptors.map (·.name)).filter
    (fun name => name != target && r.isAssignable name target)

end TypeRegistry

end RelationalCatalog
