import RelationalCatalog.Proofs.Catalog.Log
import RelationalCatalog.Proofs.Catalog.PageSize
import RelationalCatalog.Proofs.Types.Rearrangement

/-!
# Catalogs of rearranged settings

The order in which settings list types, super types, entities and users does not matter, and neither
do super types and users that they repeat (`Settings.Rearranged`). If settings are accepted, so are
rearranged ones, and the two catalogs cannot be told apart by what they answer, errors included,
except for the listing of the types (`Catalog.init_of_rearranged`).

The catalogs have the same store and the same set of users. Their registries are different, but a
type counts as the same types in both. This is all that conversions ask of a registry, and all that
a store uses of the listed types.
-/

namespace RelationalCatalog

open TypeDescriptor (Rearranged)

/-- Settings with the same types, entities and users. Types and entities may come in another order,
entities only if their identifiers are different. Super types and users may also be repeated. -/
structure Settings.Rearranged (s s' : Settings) : Prop where
  types : TypeDescriptor.Rearranged s.types s'.types
  entities : s'.entities = s.entities ∨
    (s.entities.map (·.guid)).Nodup ∧ s.entities.Perm s'.entities
  users : Option.Rel (fun users users' => ∀ user, user ∈ users' ↔ user ∈ users)
    s.authorizedUsers s'.authorizedUsers
  defaultPageSize : s'.defaultPageSize = s.defaultPageSize
  maxPageSize : s'.maxPageSize = s.maxPageSize
  statusFollowsCode : s'.statusFollowsCode = s.statusFollowsCode

/-! ## Types, entities and users -/

namespace Settings

variable {s s' : Settings}

theorem Rearranged.initialStore_eq (h : s.Rearranged s') :
    Catalog.initialStore s' = Catalog.initialStore s := by
  rcases h.entities with heq | ⟨hdistinct, hperm⟩
  · rw [Catalog.initialStore, Catalog.initialStore, heq]
  · exact (EntityStore.ofList_eq_of_perm hdistinct hperm).symm

/-- Lists of the same users are the same set, and no list stays none. -/
theorem map_ofList_eq {users users' : Option (List String)}
    (h : Option.Rel (fun users users' => ∀ user, user ∈ users' ↔ user ∈ users) users users') :
    users'.map NameSet.ofList = users.map NameSet.ofList := by
  cases h with
  | none => rfl
  | some hmem =>
    refine congrArg some (NameSet.ext_mem fun user => ?_)
    rw [NameSet.mem_ofList, NameSet.mem_ofList]
    exact hmem user

theorem Rearranged.service_eq (h : s.Rearranged s') : s'.service = s.service := by
  rw [service, service, h.defaultPageSize, h.maxPageSize, map_ofList_eq h.users]

theorem Rearranged.pageSizeFault?_eq (h : s.Rearranged s') :
    s'.pageSizeFault? = s.pageSizeFault? := by
  rw [pageSizeFault?, pageSizeFault?, h.defaultPageSize, h.maxPageSize]

/-- Settings without types have the built-in registry, however they are arranged. -/
theorem Rearranged.exists_registry (h : s.Rearranged s') {r : TypeRegistry}
    (hr : s.registry = .ok r) :
    ∃ r', s'.registry = .ok r' ∧ TypeDescriptor.Rearranged r.descriptors r'.descriptors := by
  rw [registry] at hr ⊢
  rw [← h.types.isEmpty_eq]
  split at hr
  · cases hr
    exact ⟨.builtin, if_pos ‹_›, .refl _⟩
  · obtain ⟨r', hr', hrearranged⟩ := TypeRegistry.exists_ofDescriptors_of_rearranged h.types hr
    exact ⟨r', (if_neg ‹_›).trans hr', hrearranged⟩

end Settings

/-! ## Answers -/

section Answers

variable {β : Type} {r r' : TypeRegistry}

theorem TypeRegistry.convert_of_rearranged (h : Rearranged r.descriptors r'.descriptors)
    (m : Mapping β) (e : Entity) : r'.convert m e = r.convert m e := by
  rw [convert, convert, isAssignable_of_rearranged h]

theorem TypeRegistry.convertAll_of_rearranged (h : Rearranged r.descriptors r'.descriptors)
    (m : Mapping β) (es : List Entity) : r'.convertAll m es = r.convertAll m es := by
  induction es with
  | nil => rfl
  | cons e es ih => rw [convertAll, convertAll, convert_of_rearranged h, ih]

/-- A store uses of listed types only which they are. -/
theorem EntityStore.find_congr (store : EntityStore) {typeNames typeNames' : List String}
    (h : ∀ name, name ∈ typeNames' ↔ name ∈ typeNames) (startFrom pageSize : UInt64) :
    store.find typeNames' startFrom pageSize = store.find typeNames startFrom pageSize := by
  have hcontains (name : String) : typeNames'.contains name = typeNames.contains name := by
    rw [Bool.eq_iff_iff, List.contains_iff_mem, List.contains_iff_mem, h]
  simp only [find, ofTypes, hcontains]

namespace Service

variable {store : EntityStore} {settings : ServiceSettings}

theorem getBean_of_rearranged (h : Rearranged r.descriptors r'.descriptors) (m : Mapping β)
    (guid : String) : (store.service r' settings).getBean m guid =
      (store.service r settings).getBean m guid := by
  simp only [getBean, EntityStore.service, TypeRegistry.convert_of_rearranged h]

theorem listBeans_of_rearranged (h : Rearranged r.descriptors r'.descriptors) (m : Mapping β)
    (page : PageRequest) : (store.service r' settings).listBeans m page =
      (store.service r settings).listBeans m page := by
  have hfind := store.find_congr
    (TypeRegistry.mem_assignableTypeNames_of_rearranged h m.typeName)
  simp only [listBeans, EntityStore.service, EntityStore.repository, hfind,
    TypeRegistry.convertAll_of_rearranged h]
  rfl

end Service

end Answers

/-! ## Catalogs -/

namespace Service

variable {s s' : Service} {k : BeanKind} {user guid query : List Char}

/-- With the same access, the same users are refused the types. -/
theorem answerTypes_failure?_congr
    (haccess : ∀ user action, s'.checkAccess user action = s.checkAccess user action) :
    (s'.answerTypes user).failure? = (s.answerTypes user).failure? := by
  rw [answerTypes, answerTypes]
  cases decodeUser user with
  | error error => rfl
  | ok user =>
    simp only [bind, Except.bind, haccess]
    cases s.checkAccess user Action.listSupportedTypes.name <;> rfl

theorem answerElement_congr
    (haccess : ∀ user action, s'.checkAccess user action = s.checkAccess user action)
    (hget : ∀ guid, s'.getBean k.mapping guid = s.getBean k.mapping guid) :
    s'.answerElement k user guid = s.answerElement k user guid := by
  simp only [answerElement, haccess, hget]

theorem answerListing_congr
    (haccess : ∀ user action, s'.checkAccess user action = s.checkAccess user action)
    (hlist : ∀ page, s'.listBeans k.mapping page = s.listBeans k.mapping page) :
    s'.answerListing k user query = s.answerListing k user query := by
  simp only [answerListing, haccess, hlist]

end Service

namespace Catalog

/-- **The order of declarations does not matter.** If settings are accepted, so are rearranged
ones. The two catalogs give the same beans, the same pages and the same access, or fail with the
same errors, whatever they are asked for. They also respond alike on all routes but that of the
supported types, and there they refuse the same users. Only the listing of the types shows how
these are arranged. -/
theorem init_of_rearranged {s s' : Settings} {c : Catalog} (h : s.Rearranged s')
    (hc : init s = .ok c) :
    ∃ c', init s' = .ok c' ∧
      (∀ (k : BeanKind) (guid : String),
        c'.service.getBean k.mapping guid = c.service.getBean k.mapping guid) ∧
      (∀ (k : BeanKind) (page : PageRequest),
        c'.service.listBeans k.mapping page = c.service.listBeans k.mapping page) ∧
      (∀ user action : String,
        c'.service.checkAccess user action = c.service.checkAccess user action) ∧
      (∀ (query : List Char) (route : Route), route.action ≠ .listSupportedTypes →
        c'.respond query route = c.respond query route) ∧
      (∀ user : List Char,
        (c'.service.answerTypes user).failure? = (c.service.answerTypes user).failure?) ∧
      Rearranged c.service.supportedTypes c'.service.supportedTypes := by
  obtain ⟨r, hr, hfault, rfl⟩ := exists_ofParts_of_ofSettings hc
  obtain ⟨r', hr', hrearranged⟩ := h.exists_registry hr
  have haccepted : init s' = .ok (ofParts s' r' (initialStore s).repository) := by
    rw [init, h.initialStore_eq, ofSettings, h.pageSizeFault?_eq, hfault, hr']
  have hparts : ofParts s' r' (initialStore s).repository =
      ⟨(initialStore s).service r' s.service, ⟨s.statusFollowsCode⟩⟩ := by
    rw [ofParts, h.service_eq, h.statusFollowsCode]
    rfl
  -- Both catalogs are those of one store, which differ in the registry only.
  refine ⟨⟨(initialStore s).service r' s.service, ⟨s.statusFollowsCode⟩⟩,
    hparts ▸ haccepted, ?_⟩
  have hget (k : BeanKind) (guid : String) :
      ((initialStore s).service r' s.service).getBean k.mapping guid =
        ((initialStore s).service r s.service).getBean k.mapping guid :=
    Service.getBean_of_rearranged hrearranged k.mapping guid
  have hlist (k : BeanKind) (page : PageRequest) :
      ((initialStore s).service r' s.service).listBeans k.mapping page =
        ((initialStore s).service r s.service).listBeans k.mapping page :=
    Service.listBeans_of_rearranged hrearranged k.mapping page
  have haccess (user action : String) :
      ((initialStore s).service r' s.service).checkAccess user action =
        ((initialStore s).service r s.service).checkAccess user action := rfl
  refine ⟨hget, hlist, haccess, fun query route hroute => ?_,
    fun user => Service.answerTypes_failure?_congr haccess, hrearranged⟩
  cases route with
  | supportedTypes user => exact absurd rfl hroute
  | element k user guid =>
    exact congrArg (ResponseOptions.respond _ _) (Service.answerElement_congr haccess (hget k))
  | listing k user =>
    exact congrArg (ResponseOptions.respond _ _) (Service.answerListing_congr haccess (hlist k))

/-- Settings of two types and two tables for two users. -/
def orderedSettings : Settings :=
  { Settings.default with
    types := [⟨"RelationalTable", "", []⟩, ⟨"View", "", ["RelationalTable", "Asset"]⟩]
    entities := [
      (Entity.new "a" "View").withProperty "displayName" (.text "open orders"),
      (Entity.new "b" "RelationalTable").withProperty "displayName" (.text "orders")]
    authorizedUsers := some ["ann", "bob"] }

/-- The same ones in another order, with a super type and a user twice. -/
def reorderedSettings : Settings :=
  { Settings.default with
    types := [⟨"View", "", ["Asset", "RelationalTable", "Asset"]⟩, ⟨"RelationalTable", "", []⟩]
    entities := [
      (Entity.new "b" "RelationalTable").withProperty "displayName" (.text "orders"),
      (Entity.new "a" "View").withProperty "displayName" (.text "open orders")]
    authorizedUsers := some ["bob", "ann", "bob"] }

/-- The view is the first table on the page also when it is declared last. -/
theorem first_table_of_reordered :
    ∃ c', init reorderedSettings = .ok c' ∧
      ((c'.service.listBeans BeanKind.table.mapping ⟨0, some 1⟩).map fun p =>
        p.elements.map (·.displayName)) = .ok ["open orders"] := by
  have h : orderedSettings.Rearranged reorderedSettings :=
    { types := ⟨_, .swap _ _ [], by
        refine .cons ⟨rfl, rfl, fun super => ?_⟩ (.cons (.refl _) .nil)
        simp [or_comm]⟩
      entities := .inr ⟨by decide, .swap _ _ []⟩
      users := .some fun user => by simp +contextual [iff_def, or_imp]
      defaultPageSize := rfl
      maxPageSize := rfl
      statusFollowsCode := rfl }
  obtain ⟨c', hc', -, hlist, -⟩ := init_of_rearranged h (rfl : init orderedSettings = .ok _)
  refine ⟨c', hc', ?_⟩
  rw [hlist]
  rfl

end Catalog

end RelationalCatalog
