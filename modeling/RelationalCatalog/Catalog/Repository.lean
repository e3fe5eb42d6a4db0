import RelationalCatalog.Entity.Basic
import RelationalCatalog.Error

/-!
# Repositories

A repository answers two questions: which entity has an identifier, and which entities have one
of a list of types, a window of them at a time. `EntityStore` is a repository in memory. It is
ordered by identifier, and what is stored under an identifier has that identifier.
-/

namespace RelationalCatalog

/-- The answers of a repository. -/
structure Repository where
  /-- The entity of an identifier. -/
  fetch : (guid : String) → Except RepositoryError Entity
  /-- The entities of the listed types in the order of their identifiers, without the first
  `startFrom` ones and no more than `pageSize`. -/
  find : (typeNames : List String) → (startFrom pageSize : UInt64) →
    Except RepositoryError (List Entity)

/-- The repository that answers every question with an error. -/
def Repository.failing (error : RepositoryError) : Repository where
  fetch _ := .error error
  find _ _ _ := .error error

/-- A repository in memory. -/
structure EntityStore where
  /-- The entities by their identifiers. -/
  entities : SortedMap Entity
  /-- An entity is stored under its own identifier. -/
  keyed : ∀ e ∈ entities.entries, e.2.guid = e.1

namespace EntityStore

/-- The store without entities. -/
def empty : EntityStore := ⟨.empty, by simp [SortedMap.empty]⟩

/-- The store with an entity, in place of one with the same identifier. -/
def insert (s : EntityStore) (e : Entity) : EntityStore where
  entities := s.entities.insert e.guid e
  keyed x hx := by
    rcases mem_insertEntry hx with h | h
    · simp [h]
    · exact s.keyed x h

/-- Stores an entity and gives the one whose place it takes. -/
def exchange (s : EntityStore) (e : Entity) : Option Entity × EntityStore :=
  ((s.entities.exchange e.guid e).1, s.insert e)

/-- The store of the listed entities; the last one with an identifier is kept. -/
def ofList (es : List Entity) : EntityStore := es.foldl insert empty

/-- The number of entities. -/
def size (s : EntityStore) : Nat := s.entities.size

/-- Whether there is no entity. -/
def isEmpty (s : EntityStore) : Bool := s.entities.isEmpty

/-- The entity of an identifier. -/
def get? (s : EntityStore) (guid : String) : Option Entity := s.entities.get? guid

/-- The entity of an identifier, or the error that there is none. -/
def fetch (s : EntityStore) (guid : String) : Except RepositoryError Entity :=
  match s.get? guid with
  | some e => .ok e
  | none => .error (.notFound guid)

/-- The entities of the listed types, in the order of their identifiers. -/
def ofTypes (s : EntityStore) (typeNames : List String) : List Entity :=
  s.entities.values.filter (fun e => typeNames.contains e.typeName)

/-- A window of the entities of the listed types. -/
def find (s : EntityStore) (typeNames : List String) (startFrom pageSize : UInt64) :
    List Entity :=
  ((s.ofTypes typeNames).drop startFrom.toNat).take pageSize.toNat

/-- The answers of a store. -/
def repository (s : EntityStore) : Repository where
  fetch := s.fetch
  find typeNames startFrom pageSize := .ok (s.find typeNames startFrom pageSize)

end EntityStore

end RelationalCatalog
