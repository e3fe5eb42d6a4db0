import Mathlib.Data.List.Dedup
import Mathlib.Data.List.Nodup
import RelationalCatalog.Proofs.Catalog.Repository
import RelationalCatalog.Proofs.Text.Utf8

/-!
# A store is a log in which the last entry counts

A store keeps one entity for an identifier and all of them in order. Its users need not know of
that. To them it is a log: the entities that were ever stored, one after the other, of which the
last one with an identifier is the current one. `Log.Runs` has the answers of such a log, and
`EntityStore.run_refines_log` says that a store gives these answers, whatever it begins with and
whatever it is asked.

The two are tied by what they have under an identifier (`EntityStore.Represents`). Every call
keeps that tie, so a run does.
-/

namespace RelationalCatalog

/-- What can be asked of a store. -/
inductive StoreCall
  /-- To store an entity. -/
  | insert (e : Entity)
  /-- For the entity of an identifier. -/
  | fetch (guid : String)
  /-- For a window of the entities of some types. -/
  | find (typeNames : List String) (startFrom pageSize : UInt64)
  /-- For the number of entities. -/
  | size

/-- What a store answers. -/
inductive StoreAnswer
  /-- The entity that gave way to the one that was stored. -/
  | replaced (old : Option Entity)
  /-- The entity of an identifier, or why there is none. -/
  | fetched (result : Except RepositoryError Entity)
  /-- The entities of a window. -/
  | found (entities : List Entity)
  /-- The number of entities. -/
  | counted (n : Nat)

namespace EntityStore

/-- The answer to a call, and the store after it. -/
def step (s : EntityStore) : StoreCall → StoreAnswer × EntityStore
  | .insert e => (.replaced (s.exchange e).1, (s.exchange e).2)
  | .fetch guid => (.fetched (s.fetch guid), s)
  | .find typeNames startFrom pageSize => (.found (s.find typeNames startFrom pageSize), s)
  | .size => (.counted s.size, s)

/-- The answers to calls in their order, and the store after them. -/
def run (s : EntityStore) : List StoreCall → List StoreAnswer × EntityStore
  | [] => ([], s)
  | call :: calls =>
    let (answer, s) := s.step call
    let (answers, s) := s.run calls
    (answer :: answers, s)

end EntityStore

/-! ## Logs -/

namespace Log

/-- The current entity of an identifier: the last one in the log. -/
def current? (log : List Entity) (guid : String) : Option Entity :=
  log.findRev? fun e => e.guid == guid

/-- The identifiers in a log, each once. -/
def guids (log : List Entity) : List String := (log.map (·.guid)).dedup

/-- The log after a call. -/
def after (log : List Entity) : StoreCall → List Entity
  | .insert e => log ++ [e]
  | _ => log

/-- The answers of a log. -/
inductive Answers (log : List Entity) : StoreCall → StoreAnswer → Prop
  /-- The entity that was current gives way to a new one. -/
  | insert (e : Entity) : Answers log (.insert e) (.replaced (current? log e.guid))
  /-- The current entity is fetched. -/
  | fetch {guid : String} {e : Entity} (h : current? log guid = some e) :
    Answers log (.fetch guid) (.fetched (.ok e))
  /-- An identifier that is not in the log is missed by its name. -/
  | miss {guid : String} (h : current? log guid = none) :
    Answers log (.fetch guid) (.fetched (.error (.notFound guid)))
  /-- Of the current entities of the listed types, in the order of the bytes of their
  identifiers, a window is found. -/
  | find {typeNames : List String} {listed : List Entity}
    (hlisted : ∀ e, e ∈ listed ↔ current? log e.guid = some e ∧ e.typeName ∈ typeNames)
    (hsorted : (listed.map (·.guid)).Pairwise fun a b => textBytes a < textBytes b)
    (startFrom pageSize : UInt64) :
    Answers log (.find typeNames startFrom pageSize)
      (.found ((listed.drop startFrom.toNat).take pageSize.toNat))
  /-- As many entities are counted as there are identifiers. -/
  | size : Answers log .size (.counted (guids log).length)

/-- The answers of a log to calls in their order. -/
inductive Runs : List Entity → List StoreCall → List StoreAnswer → Prop
  | nil (log : List Entity) : Runs log [] []
  | cons {log : List Entity} {call : StoreCall} {answer : StoreAnswer} {calls : List StoreCall}
    {answers : List StoreAnswer} (h : Answers log call answer)
    (hrest : Runs (after log call) calls answers) :
    Runs log (call :: calls) (answer :: answers)

variable {log : List Entity} {e : Entity} {guid : String}

theorem current?_append_self (log : List Entity) (e : Entity) :
    current? (log ++ [e]) e.guid = some e := by
  simp [current?, List.findRev?_eq_find?_reverse]

theorem current?_append_of_ne (log : List Entity) (h : guid ≠ e.guid) :
    current? (log ++ [e]) guid = current? log guid := by
  simp [current?, List.findRev?_eq_find?_reverse, Ne.symm h]

/-- The identifiers in a log are those that have a current entity. -/
theorem mem_guids_iff : guid ∈ guids log ↔ (current? log guid).isSome = true := by
  rw [guids, List.mem_dedup, List.mem_map, current?, List.findRev?_eq_find?_reverse,
    List.find?_isSome]
  simp only [List.mem_reverse, beq_iff_eq]

/-- With different identifiers, every entity is the current one. -/
theorem current?_eq_some_iff (h : (log.map (·.guid)).Nodup) :
    current? log guid = some e ↔ e ∈ log ∧ e.guid = guid := by
  rw [current?, List.findRev?_eq_find?_reverse]
  constructor
  · intro hfound
    have hguid := List.find?_some hfound
    exact ⟨List.mem_reverse.mp (List.mem_of_find?_eq_some hfound), eq_of_beq hguid⟩
  · rintro ⟨he, rfl⟩
    cases hfound : log.reverse.find? fun x => x.guid == e.guid with
    | none =>
      have hnot := List.find?_eq_none.mp hfound e (List.mem_reverse.mpr he)
      exact absurd (beq_self_eq_true e.guid) hnot
    | some e' =>
      have hguid := List.find?_some hfound
      have he' := List.mem_reverse.mp (List.mem_of_find?_eq_some hfound)
      rw [List.inj_on_of_nodup_map h he' he (eq_of_beq hguid)]

end Log

/-! ## Stores and logs -/

namespace EntityStore

open Log

variable {s : EntityStore} {log : List Entity}

/-- Whether a store has what is current in a log. -/
def Represents (s : EntityStore) (log : List Entity) : Prop :=
  ∀ guid, s.get? guid = current? log guid

theorem get?_insert_self (s : EntityStore) (e : Entity) : (s.insert e).get? e.guid = some e :=
  s.entities.get?_insert_self e.guid e

theorem get?_insert_of_ne (s : EntityStore) {e : Entity} {guid : String} (h : guid ≠ e.guid) :
    (s.insert e).get? guid = s.get? guid :=
  s.entities.get?_insert_of_ne h e

/-- Storing gives what was stored under the identifier. -/
theorem exchange_eq (s : EntityStore) (e : Entity) : s.exchange e = (s.get? e.guid, s.insert e) := by
  rw [exchange, SortedMap.exchange_eq, get?]

theorem represents_empty : empty.Represents [] := fun _ => rfl

/-- An entity that is stored is the last one of the log. -/
theorem Represents.insert (h : s.Represents log) (e : Entity) :
    (s.insert e).Represents (log ++ [e]) := by
  intro guid
  by_cases hguid : guid = e.guid
  · subst hguid
    rw [get?_insert_self, current?_append_self]
  · rw [get?_insert_of_ne s hguid, current?_append_of_ne log hguid, h guid]

theorem Represents.foldl_insert (h : s.Represents log) (es : List Entity) :
    (es.foldl EntityStore.insert s).Represents (log ++ es) := by
  induction es generalizing s log with
  | nil =>
    rw [List.append_nil]
    exact h
  | cons e es ih =>
    rw [List.foldl_cons, List.append_cons]
    exact ih (h.insert e)

/-- A store of listed entities has the last ones of the list. -/
theorem represents_ofList (es : List Entity) : (ofList es).Represents es :=
  represents_empty.foldl_insert es

/-- The order in which entities are stored does not matter if their identifiers are different. -/
theorem ofList_eq_of_perm {es es' : List Entity} (hdistinct : (es.map (·.guid)).Nodup)
    (hperm : es.Perm es') : ofList es = ofList es' := by
  have hdistinct' : (es'.map (·.guid)).Nodup := (hperm.map _).nodup hdistinct
  refine ext_get? fun guid => Option.ext fun e => ?_
  rw [represents_ofList es guid, represents_ofList es' guid, current?_eq_some_iff hdistinct,
    current?_eq_some_iff hdistinct', hperm.mem_iff]

/-- What is found are the current entities of the listed types. -/
theorem Represents.mem_ofTypes_iff (h : s.Represents log) {typeNames : List String} {e : Entity} :
    e ∈ s.ofTypes typeNames ↔ current? log e.guid = some e ∧ e.typeName ∈ typeNames := by
  rw [mem_ofTypes, ← h e.guid, get?_eq_some_iff, eq_self, and_true]

/-- There are as many entities as identifiers in the log: both are listed without repetition. -/
theorem Represents.size_eq (h : s.Represents log) : s.size = (guids log).length := by
  have hnodup : s.entities.names.Nodup := by
    have hsorted : s.entities.names.Pairwise (· < ·) := List.pairwise_map.mpr s.entities.sorted
    exact hsorted.nodup
  have hmem : ∀ guid, guid ∈ s.entities.names ↔ guid ∈ guids log := by
    intro guid
    rw [SortedMap.mem_names_iff, mem_guids_iff, ← h guid, get?]
  have hperm : s.entities.names.Perm (guids log) :=
    (List.perm_ext_iff_of_nodup hnodup (List.nodup_dedup _)).mpr hmem
  rw [← hperm.length_eq, SortedMap.names, List.length_map, size, SortedMap.size]

/-- A call is answered as by the log. -/
theorem Represents.answers_step (h : s.Represents log) (call : StoreCall) :
    Answers log call (s.step call).1 := by
  cases call with
  | insert e =>
    rw [step, exchange_eq, h e.guid]
    exact .insert e
  | fetch guid =>
    rw [step, fetch, h guid]
    cases hcurrent : current? log guid with
    | some e => exact .fetch hcurrent
    | none => exact .miss hcurrent
  | find typeNames startFrom pageSize =>
    have hsorted := s.pairwise_guidsOf typeNames
    exact .find (fun e => h.mem_ofTypes_iff) (hsorted.imp textBytes_lt_iff.mpr) startFrom pageSize
  | size =>
    rw [step, h.size_eq]
    exact .size

/-- After a call, the store has what is current in the log after it. -/
theorem Represents.step (h : s.Represents log) (call : StoreCall) :
    (s.step call).2.Represents (Log.after log call) := by
  cases call with
  | insert e =>
    rw [EntityStore.step, exchange_eq]
    exact h.insert e
  | fetch guid => exact h
  | find typeNames startFrom pageSize => exact h
  | size => exact h

/-- Calls in their order are answered as by the log. -/
theorem Represents.run (h : s.Represents log) (calls : List StoreCall) :
    Runs log calls (s.run calls).1 := by
  induction calls generalizing s log with
  | nil => exact .nil log
  | cons call calls ih => exact .cons (h.answers_step call) (ih (h.step call))

/-- **A store in memory is a log in which the last entry counts.** Whatever it begins with and
whatever it is asked in whatever order, its answers are those of the log of all that it began
with and all that was stored since. To store an entity gives the one that was fetched by its
identifier just before, and changes what is fetched by no other identifier. -/
theorem run_refines_log :
    (∀ (seed : List Entity) (calls : List StoreCall),
      Runs seed calls ((ofList seed).run calls).1) ∧
    (∀ (s : EntityStore) (e old : Entity),
      (s.exchange e).1 = some old ↔ s.fetch e.guid = .ok old) ∧
    (∀ (s : EntityStore) (e : Entity) (guid : String), guid ≠ e.guid →
      (s.exchange e).2.fetch guid = s.fetch guid) := by
  refine ⟨fun seed calls => (represents_ofList seed).run calls, fun s e old => ?_,
    fun s e guid hguid => ?_⟩
  · rw [exchange_eq]
    exact fetch_eq_ok_iff.symm
  · rw [exchange_eq, fetch, fetch, get?_insert_of_ne s hguid]

/-- A table that is stored again as a view gives way to it and counts once, and another table
is still fetched. -/
theorem runs_stored_again :
    Runs [.new "b" "RelationalTable", .new "a" "RelationalTable"]
        [.insert (.new "b" "RelationalView"), .find ["RelationalView"] 0 5, .size]
        [.replaced (some (.new "b" "RelationalTable")), .found [.new "b" "RelationalView"],
          .counted 2] ∧
      ((ofList [.new "b" "RelationalTable", .new "a" "RelationalTable"]).exchange
        (.new "b" "RelationalView")).2.fetch "a" = .ok (.new "a" "RelationalTable") := by
  obtain ⟨hruns, -, hothers⟩ := run_refines_log
  refine ⟨hruns _ [.insert (.new "b" "RelationalView"), .find ["RelationalView"] 0 5, .size], ?_⟩
  rw [hothers _ _ "a" (by decide)]
  rfl

end EntityStore

end RelationalCatalog
