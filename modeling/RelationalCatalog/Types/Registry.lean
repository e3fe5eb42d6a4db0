import RelationalCatalog.Collection.Positions
import RelationalCatalog.Text.Blank
import RelationalCatalog.Number.Integer

/-!
# The type registry

The registry lists the types that can be searched for, each with its direct super types. Names
are not blank and no two types have the same one. A super type need not be registered itself. An
index of the names leads to the types; it is filled while the names are checked.
-/

namespace RelationalCatalog

/-- A type that can be searched for. -/
structure TypeDescriptor where
  /-- The name of the type. -/
  name : String
  /-- What the type is for. -/
  description : String
  /-- The names of its direct super types, as declared. -/
  superTypeNames : List String
deriving DecidableEq

/-- Why a list of types is no registry. -/
inductive RegistryError
  /-- The name of the type at a position is blank. -/
  | emptyName (position : Nat)
  /-- A name is declared twice. -/
  | duplicateType (name : String)
deriving DecidableEq

/-- The wording of a registry's error. -/
def RegistryError.message : RegistryError → String
  | .emptyName position => s!"type descriptor #{intText position} has an empty name"
  | .duplicateType name => s!"type '{name}' is declared more than once"

/-- Adds the names of types to an index, the first of them at a position. A blank name is refused,
and so is one that the index has already. -/
def register (position : Nat) (index : SortedMap Nat) :
    List TypeDescriptor → Except RegistryError (SortedMap Nat)
  | [] => .ok index
  | d :: rest =>
    if isBlankText d.name then .error (.emptyName position)
    else
      match index.exchange d.name position with
      | (some _, _) => .error (.duplicateType d.name)
      | (none, index) => register (position + 1) index rest

/-- Registered types are located behind those that were there. -/
theorem locates_of_register {index index' : SortedMap Nat} {names : List String}
    {ds : List TypeDescriptor} (h : Locates index names)
    (hr : register names.length index ds = .ok index') :
    Locates index' (names ++ ds.map (·.name)) := by
  induction ds generalizing names index with
  | nil =>
    cases hr
    rwa [List.map_nil, List.append_nil]
  | cons d rest ih =>
    rw [register, SortedMap.exchange_eq] at hr
    split at hr
    · cases hr
    · cases hget : index.get? d.name with
      | some position =>
        rw [hget] at hr
        cases hr
      | none =>
        have hlength : (names ++ [d.name]).length = names.length + 1 := List.length_append
        rw [hget] at hr
        rw [List.map_cons, List.append_cons]
        exact ih (h.concat (h.get?_eq_none_iff.1 hget)) (hlength ▸ hr)

/-- The types that can be searched for. -/
structure TypeRegistry where
  /-- The types in the order of their declaration. -/
  descriptors : List TypeDescriptor
  /-- The position of each type, under its name. -/
  index : SortedMap Nat
  /-- The index has just these positions. -/
  located : Locates index (descriptors.map (·.name))

namespace TypeRegistry

/-- No two types have the same name. -/
theorem distinct (r : TypeRegistry) : (r.descriptors.map (·.name)).Nodup := r.located.nodup

/-- The registry of the listed types. -/
def ofDescriptors (ds : List TypeDescriptor) : Except RegistryError TypeRegistry :=
  match h : register 0 .empty ds with
  | .ok index => .ok ⟨ds, index, locates_of_register Locates.empty h⟩
  | .error error => .error error

/-- The registry of types that are known to have different names. -/
def ofDistinct (ds : List TypeDescriptor) (h : (ds.map (·.name)).Nodup) : TypeRegistry :=
  ⟨ds, positions (ds.map (·.name)), locates_positions h⟩

@[simp] theorem descriptors_ofDistinct (ds : List TypeDescriptor)
    (h : (ds.map (·.name)).Nodup) : (ofDistinct ds h).descriptors = ds := rfl

/-- The types of the built-in registry. -/
def builtinTypes : List TypeDescriptor := [
  ⟨"RelationalSchema", "Schema of a relational database that groups tables and views.",
    ["DeployedDatabaseSchema"]⟩,
  ⟨"RelationalTable", "Table of a relational database schema.", ["SchemaAttribute"]⟩,
  ⟨"RelationalView", "View defined over one or more relational tables.", ["RelationalTable"]⟩,
  ⟨"RelationalColumn", "Column of a relational table or view.", ["SchemaAttribute"]⟩]

/-- The built-in registry. -/
def builtin : TypeRegistry := ofDistinct builtinTypes (by decide)

/-- The number of types. -/
def size (r : TypeRegistry) : Nat := r.descriptors.length

/-- Whether there is no type. -/
def isEmpty (r : TypeRegistry) : Bool := r.descriptors.isEmpty

/-- The type of a name: the one at the position that the index has for it. -/
def get? (r : TypeRegistry) (name : String) : Option TypeDescriptor :=
  (r.index.get? name).bind fun position => r.descriptors[position]?

/-- A type is found at its position. -/
theorem get?_eq_some_iff_getElem? {r : TypeRegistry} {name : String} {d : TypeDescriptor} :
    r.get? name = some d ↔ ∃ position : Nat, r.descriptors[position]? = some d ∧ d.name = name := by
  rw [get?, Option.bind_eq_some_iff]
  refine exists_congr fun position => ?_
  rw [r.located, List.getElem?_map, Option.map_eq_some_iff]
  constructor
  · rintro ⟨⟨d', hd', hname⟩, hd⟩
    obtain rfl := Option.some.inj (hd.symm.trans hd')
    exact ⟨hd, hname⟩
  · rintro ⟨hd, hname⟩
    exact ⟨⟨d, hd, hname⟩, hd⟩

/-- A name finds the one type that has it. -/
theorem get?_eq_some_iff {r : TypeRegistry} {name : String} {d : TypeDescriptor} :
    r.get? name = some d ↔ d ∈ r.descriptors ∧ d.name = name := by
  rw [get?_eq_some_iff_getElem?, exists_and_right, ← List.mem_iff_getElem?]

/-- Nothing is found under a name that no type has. -/
theorem get?_eq_none_iff {r : TypeRegistry} {name : String} :
    r.get? name = none ↔ ∀ d ∈ r.descriptors, d.name ≠ name := by
  rw [Option.eq_none_iff_forall_ne_some]
  exact forall_congr' fun d => by rw [ne_eq, get?_eq_some_iff, not_and]

end TypeRegistry

end RelationalCatalog
