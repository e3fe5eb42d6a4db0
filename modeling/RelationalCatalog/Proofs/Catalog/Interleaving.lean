import RelationalCatalog.Proofs.Catalog.Repository

/-!
# Pages that are read while entities are stored

A reader takes the entities of some types page by page, each page where the one before it ended,
and stops at the first page that is not full. Meanwhile others store entities. A page begins at
a position of a list, and the list changes between two pages: an entity that is stored in front
of the reader moves all others back, so a page may show again what the reader has seen.
`PageReader.shows_of_finished` says that no page leaves out what was there at the beginning.

It rests on one invariant (`PageReader.Accounts`): what no page has shown stands at or behind
the position of the next page. Storing an entity only adds to the listed identifiers
(`EntityStore.sublist_guidsOf_insert`), so nothing comes to stand in front of a position that it
was behind.
-/

namespace RelationalCatalog

/-! ## Storing adds to a listing -/

/-- If the new value is kept wherever the old one was, an insertion takes no name out of those
whose values are kept. -/
theorem sublist_filter_insertEntry {β : Type} (keep : β → Bool) {name : String} {value : β}
    {entries : List (String × β)}
    (h : ∀ old, lookupEntry name entries = some old → keep old = true → keep value = true) :
    ((entries.filter fun x => keep x.2).map (·.1)).Sublist
      (((insertEntry name value entries).filter fun x => keep x.2).map (·.1)) := by
  induction entries with
  | nil => exact List.nil_sublist _
  | cons head rest ih =>
    obtain ⟨n, v⟩ := head
    rw [insertEntry]
    split
    · -- The new entry stands in front of all others.
      apply List.Sublist.map
      exact (List.sublist_cons_self _ _).filter _
    · split
      · -- The new entry takes the place of an old one, with the same name.
        rename_i heq
        subst heq
        have hkeep : keep v = true → keep value = true := h v (if_pos rfl)
        rw [List.filter_cons, List.filter_cons]
        split
        · rename_i hv
          rw [if_pos (hkeep hv)]
          exact List.Sublist.refl _
        · apply List.Sublist.map
          split
          · exact List.sublist_cons_self _ _
          · exact List.Sublist.refl _
      · rename_i hne
        have hrest := ih fun old hold => h old (by rw [lookupEntry, if_neg (Ne.symm hne), hold])
        simp only [List.filter_cons]
        split
        · exact hrest.cons_cons n
        · exact hrest

namespace EntityStore

variable {s : EntityStore} {e : Entity} {typeNames : List String}

/-- Whether storing an entity leaves the listed types with all the identifiers they had: it does
not replace an entity of one of them by an entity of another type. -/
def KeepsListed (s : EntityStore) (typeNames : List String) (e : Entity) : Prop :=
  ∀ old, s.get? e.guid = some old → old.typeName ∈ typeNames → e.typeName ∈ typeNames

/-- Storing an entity adds to the listed identifiers. -/
theorem sublist_guidsOf_insert (h : s.KeepsListed typeNames e) :
    (s.guidsOf typeNames).Sublist ((s.insert e).guidsOf typeNames) := by
  rw [guidsOf_eq, guidsOf_eq]
  apply sublist_filter_insertEntry fun x : Entity => typeNames.contains x.typeName
  intro old hold hlisted
  rw [List.contains_iff_mem] at hlisted ⊢
  exact h old hold hlisted

end EntityStore

/-! ## Readers -/

/-- A reader of the pages of a store. -/
structure PageReader where
  /-- The store as it is now. -/
  store : EntityStore
  /-- The position at which the next page begins. -/
  startFrom : UInt64
  /-- The pages that were read, in their order. -/
  pages : List (List Entity)
  /-- Whether the last page was not full. -/
  finished : Bool

namespace PageReader

/-- What happens while pages are read. -/
inductive Event
  /-- Someone stores an entity. -/
  | insert (e : Entity)
  /-- The reader reads the next page, unless it has finished. -/
  | read

/-- The reader that has read nothing yet. -/
def start (store : EntityStore) : PageReader := ⟨store, 0, [], false⟩

/-- The reader after an event. -/
def step (typeNames : List String) (pageSize : UInt64) (r : PageReader) : Event → PageReader
  | .insert e => { r with store := r.store.insert e }
  | .read =>
    if r.finished then r
    else
      let page := r.store.find typeNames r.startFrom pageSize
      { r with
        startFrom := r.startFrom + pageSize
        pages := r.pages ++ [page]
        finished := decide (page.length < pageSize.toNat) }

/-- The reader after events in their order. -/
def run (typeNames : List String) (pageSize : UInt64) : PageReader → List Event → PageReader
  | r, [] => r
  | r, event :: rest => run typeNames pageSize (r.step typeNames pageSize event) rest

/-- Whether no entity that is stored before the reader has finished replaces one of the listed
types by one of another. -/
def KeepsListed (typeNames : List String) (pageSize : UInt64) : PageReader → List Event → Prop
  | _, [] => True
  | r, .insert e :: rest =>
    (r.finished = false → r.store.KeepsListed typeNames e) ∧
      KeepsListed typeNames pageSize (r.step typeNames pageSize (.insert e)) rest
  | r, .read :: rest => KeepsListed typeNames pageSize (r.step typeNames pageSize .read) rest

/-- Whether a page has shown an entity with an identifier. -/
def Shows (r : PageReader) (guid : String) : Prop := ∃ page ∈ r.pages, ∃ e ∈ page, e.guid = guid

/-- The invariant for an identifier: a page has shown it, or it stands where the next pages
are. -/
def Accounts (typeNames : List String) (r : PageReader) (guid : String) : Prop :=
  r.Shows guid ∨
    r.finished = false ∧ guid ∈ (r.store.guidsOf typeNames).drop r.startFrom.toNat

variable {typeNames : List String} {pageSize : UInt64} {r : PageReader} {guid : String}

/-- A page shows more than the pages before it. -/
theorem Shows.read (h : r.Shows guid) : (r.step typeNames pageSize .read).Shows guid := by
  rw [step]
  split
  · exact h
  · obtain ⟨page, hpage, hshows⟩ := h
    exact ⟨page, List.mem_append_left _ hpage, hshows⟩

/-- An entity that is stored in between keeps the invariant. -/
theorem Accounts.insert {e : Entity} (h : r.Accounts typeNames guid)
    (he : r.finished = false → r.store.KeepsListed typeNames e) :
    (r.step typeNames pageSize (.insert e)).Accounts typeNames guid := by
  rcases h with hshown | ⟨hreading, hmem⟩
  · exact .inl hshown
  · have hadds := EntityStore.sublist_guidsOf_insert (he hreading)
    exact .inr ⟨hreading, (hadds.drop _).subset hmem⟩

/-- What the reader has still to see is on the next page or behind it. A page that is not full
has nothing behind it. -/
theorem Accounts.read (h : r.Accounts typeNames guid) :
    (r.step typeNames pageSize .read).Accounts typeNames guid := by
  rcases h with hshown | ⟨hreading, hmem⟩
  · exact .inl hshown.read
  · rw [step, if_neg (by rw [hreading]; decide)]
    -- The window is cut out of the entities that stand at or behind its position.
    have hpage : r.store.find typeNames r.startFrom pageSize =
        ((r.store.ofTypes typeNames).drop r.startFrom.toNat).take pageSize.toNat := rfl
    rw [EntityStore.guidsOf, ← List.map_drop] at hmem
    obtain ⟨e, he, rfl⟩ := List.mem_map.mp hmem
    rw [← List.take_append_drop pageSize.toNat (List.drop _ _), ← hpage, List.drop_drop] at he
    rcases List.mem_append.mp he with he | he
    · exact .inl ⟨_, List.mem_append_right _ (List.mem_singleton_self _), e, he, rfl⟩
    · refine .inr ⟨decide_eq_false ?_, ?_⟩
      · intro hlast
        have hlength := List.length_pos_of_mem he
        rw [hpage, List.length_take, List.length_drop] at hlast
        rw [List.length_drop] at hlength
        omega
      · -- Positions are 64 bits wide, and a sum that does not fit is smaller than the real one.
        have hle : (r.startFrom + pageSize).toNat ≤ r.startFrom.toNat + pageSize.toNat := by
          rw [UInt64.toNat_add]
          exact Nat.mod_le _ _
        rw [EntityStore.guidsOf, ← List.map_drop]
        exact List.mem_map_of_mem ((List.drop_sublist_drop_left _ hle).subset he)

/-- The invariant holds after all events. -/
theorem Accounts.run {events : List Event} (h : r.Accounts typeNames guid)
    (hkeeps : r.KeepsListed typeNames pageSize events) :
    (r.run typeNames pageSize events).Accounts typeNames guid := by
  induction events generalizing r with
  | nil => exact h
  | cons event rest ih =>
    cases event with
    | insert e => exact ih (h.insert hkeeps.1) hkeeps.2
    | read => exact ih h.read hkeeps

/-- What is stored at the beginning is still to be seen. -/
theorem accounts_start {store : EntityStore} {e : Entity} (hget : store.get? guid = some e)
    (htype : e.typeName ∈ typeNames) : (start store).Accounts typeNames guid := by
  obtain ⟨hmem, rfl⟩ := EntityStore.get?_eq_some_iff.mp hget
  exact .inr ⟨rfl, List.mem_map_of_mem (EntityStore.mem_ofTypes.mpr ⟨hmem, htype⟩)⟩

/-- **Reading page by page leaves nothing out while entities are stored.** Whatever is stored
between the pages and in whatever order, as long as no entity of the listed types is replaced by
one of another type: if the reader comes to an end, each identifier that had an entity of the
listed types at the beginning is the one of an entity on some page. -/
theorem shows_of_finished (typeNames : List String) (pageSize : UInt64) (store : EntityStore)
    (events : List Event) (hkeeps : (start store).KeepsListed typeNames pageSize events)
    (hfinished : ((start store).run typeNames pageSize events).finished = true) :
    ∀ guid e, store.get? guid = some e → e.typeName ∈ typeNames →
      ∃ page ∈ ((start store).run typeNames pageSize events).pages, ∃ e' ∈ page,
        e'.guid = guid := by
  intro guid e hget htype
  rcases (accounts_start hget htype).run hkeeps with hshown | ⟨hreading, -⟩
  · exact hshown
  · rw [hfinished] at hreading
    cases hreading

/-- An entity is shown although another one was stored in front of the reader and it was itself
replaced before its page was read. -/
theorem shows_moved_and_replaced :
    ∃ page ∈ ((start (.ofList [.new "b" "T", .new "c" "T", .new "d" "T"])).run ["T"] 2
        [.read, .insert (.new "a" "T"), .insert ((Entity.new "d" "T").withClassification "new"),
          .read, .read]).pages,
      ∃ e ∈ page, e.guid = "d" := by
  refine shows_of_finished ["T"] 2 (.ofList [.new "b" "T", .new "c" "T", .new "d" "T"])
    [.read, .insert (.new "a" "T"), .insert ((Entity.new "d" "T").withClassification "new"),
      .read, .read] ⟨fun _ old hold => ?_, fun _ old _ _ => ?_, trivial⟩ rfl
    "d" (.new "d" "T") rfl (List.mem_singleton_self _)
  · cases hold
  · exact List.mem_singleton_self _

end PageReader

end RelationalCatalog
