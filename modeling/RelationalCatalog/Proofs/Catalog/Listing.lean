import RelationalCatalog.Catalog.Service
import RelationalCatalog.Proofs.Bean.Conversion
import RelationalCatalog.Proofs.Catalog.Repository
import RelationalCatalog.Proofs.Types.Assignability

/-!
# Listings over a store

A listing of beans finds a window of entities and converts them together, while a single bean is
fetched and converted on its own. Over a store both see the same entities.

- `listing_filter_agrees_with_conversion` — what a listing filters for is what converts
- `listBeans_agrees_with_getBean` — a listing gives the beans that are got one by one, or the
  first error among them
-/

namespace RelationalCatalog

/-- The service over a store. -/
def EntityStore.service (store : EntityStore) (registry : TypeRegistry)
    (settings : ServiceSettings) : Service :=
  ⟨registry, store.repository, settings⟩

namespace Service

variable {β : Type} {store : EntityStore} {registry : TypeRegistry} {settings : ServiceSettings}
  {m : Mapping β}

/-- The entities of a page of a listing over a store. -/
def pageEntities (store : EntityStore) (registry : TypeRegistry) (m : Mapping β)
    (startFrom pageSize : UInt64) : List Entity :=
  store.find (registry.assignableTypeNames m.typeName) startFrom pageSize

/-- What a listing filters for are the stored entities that count as its type. -/
theorem length_ofTypes_assignableTypeNames (store : EntityStore) (registry : TypeRegistry)
    (target : String) :
    (store.ofTypes (registry.assignableTypeNames target)).length =
      store.entities.values.countP (fun e => registry.isAssignable e.typeName target) := by
  rw [EntityStore.ofTypes, ← List.countP_eq_length_filter]
  refine List.countP_congr fun e _ => ?_
  rw [List.contains_iff_mem]
  exact TypeRegistry.mem_assignableTypeNames

/-- A listing converts the entities of its page. -/
theorem listBeans_eq {page : PageRequest} {size : UInt64}
    (hsize : (store.service registry settings).resolvePageSize page.pageSize = .ok size) :
    (store.service registry settings).listBeans m page =
      (registry.convertAll m (pageEntities store registry m page.startFrom size)).map
        (fun beans => ⟨beans, page.startFrom, size⟩) := by
  rw [listBeans, hsize]
  show (registry.convertAll m (pageEntities store registry m page.startFrom size)).bind _ = _
  cases registry.convertAll m (pageEntities store registry m page.startFrom size) <;> rfl

/-- A listing gives what the entities of its page convert to. -/
theorem listBeans_eq_ok_iff_convertAll {page : PageRequest} {size : UInt64}
    (hsize : (store.service registry settings).resolvePageSize page.pageSize = .ok size)
    (p : Page β) :
    (store.service registry settings).listBeans m page = .ok p ↔
      registry.convertAll m (pageEntities store registry m page.startFrom size) =
          .ok p.elements ∧
        p.startFrom = page.startFrom ∧ p.pageSize = size := by
  rw [listBeans_eq hsize]
  obtain ⟨elements, startFrom, pageSize⟩ := p
  cases registry.convertAll m (pageEntities store registry m page.startFrom size) with
  | error error => exact ⟨fun h => (by cases h), fun h => (by cases h.1)⟩
  | ok beans =>
    constructor
    · intro h
      cases h
      exact ⟨rfl, rfl, rfl⟩
    · rintro ⟨h, rfl, rfl⟩
      cases h
      rfl

/-- A listing of an admitted size fails where the entities of its page do not convert. -/
theorem listBeans_eq_error_iff_convertAll {page : PageRequest} {size : UInt64}
    (hsize : (store.service registry settings).resolvePageSize page.pageSize = .ok size)
    (error : ServiceError) :
    (store.service registry settings).listBeans m page = .error error ↔
      registry.convertAll m (pageEntities store registry m page.startFrom size) =
        .error error := by
  rw [listBeans_eq hsize]
  cases registry.convertAll m (pageEntities store registry m page.startFrom size) with
  | error error' => exact ⟨fun h => (by cases h; rfl), fun h => (by cases h; rfl)⟩
  | ok beans => exact ⟨fun h => (by cases h), fun h => (by cases h)⟩

/-- A listing of an admitted size fails with the error of an entity that it filters for. -/
theorem exists_convert_of_listBeans {page : PageRequest} {size : UInt64} {error : ServiceError}
    (hsize : (store.service registry settings).resolvePageSize page.pageSize = .ok size)
    (h : (store.service registry settings).listBeans m page = .error error) :
    ∃ e ∈ store.ofTypes (registry.assignableTypeNames m.typeName),
      registry.convert m e = .error error := by
  rw [listBeans_eq_error_iff_convertAll hsize, TypeRegistry.convertAll_eq_error_iff] at h
  obtain ⟨j, e, he, herror, -⟩ := h
  exact ⟨e, EntityStore.mem_ofTypes_of_mem_find (List.mem_of_getElem? he), herror⟩

/-- A single bean is the one that its entity converts to. -/
theorem getBean_of_fetch {guid : String} {e : Entity} (h : store.fetch guid = .ok e) :
    (store.service registry settings).getBean m guid = registry.convert m e := by
  have hfetch : (store.service registry settings).repository.fetch guid = .ok e := h
  rw [getBean, hfetch]
  rfl

/-- A bean that is got comes from an entity that is stored under its identifier. -/
theorem exists_of_getBean {guid : String} {bean : β}
    (h : (store.service registry settings).getBean m guid = .ok bean) :
    ∃ e, store.get? guid = some e ∧ registry.convert m e = .ok bean := by
  cases hfetch : store.fetch guid with
  | error error =>
    have hrepository : (store.service registry settings).repository.fetch guid = .error error :=
      hfetch
    rw [getBean, hrepository] at h
    cases h
  | ok e =>
    rw [getBean_of_fetch hfetch] at h
    exact ⟨e, EntityStore.fetch_eq_ok_iff.mp hfetch, h⟩

/-- A page size is refused for no other reason than the paging. -/
theorem resolvePageSize_eq_error {s : Service} {requested : Option UInt64} {error : ServiceError}
    (h : s.resolvePageSize requested = .error error) : ∃ reason, error = .invalidPaging reason := by
  cases requested with
  | none => cases h
  | some size =>
    rw [resolvePageSize] at h
    split at h
    · cases h
      exact ⟨_, rfl⟩
    · split at h
      · cases h
        exact ⟨_, rfl⟩
      · cases h

/-- A listing never fails for the type of an entity. -/
theorem listBeans_ne_typeMismatch (page : PageRequest) (guid expected actual : String) :
    (store.service registry settings).listBeans m page ≠
      .error (.typeMismatch guid expected actual) := by
  intro h
  cases hsize : (store.service registry settings).resolvePageSize page.pageSize with
  | error error =>
    rw [listBeans, hsize] at h
    cases h
    obtain ⟨reason, hreason⟩ := resolvePageSize_eq_error hsize
    cases hreason
  | ok size =>
    obtain ⟨e, he, herror⟩ := exists_convert_of_listBeans hsize h
    obtain ⟨-, htype⟩ := EntityStore.mem_ofTypes.mp he
    exact TypeRegistry.convert_ne_typeMismatch (TypeRegistry.mem_assignableTypeNames.mp htype)
      _ _ _ herror

/-- An entity whose bean can be got is among those that listings filter for. -/
theorem mem_ofTypes_of_getBean {guid : String} {bean : β}
    (h : (store.service registry settings).getBean m guid = .ok bean) :
    ∃ e, store.get? guid = some e ∧
      e ∈ store.ofTypes (registry.assignableTypeNames m.typeName) := by
  obtain ⟨e, hget, hconvert⟩ := exists_of_getBean h
  have hstored := (EntityStore.get?_eq_some_iff.mp hget).1
  have hassignable := TypeRegistry.isAssignable_of_convert hconvert
  exact ⟨e, hget, EntityStore.mem_ofTypes.mpr
    ⟨hstored, TypeRegistry.mem_assignableTypeNames.mpr hassignable⟩⟩

/-- **The filter of a listing and the check of a conversion admit the same types**: the names
that a listing filters for are those that count as its target, each once, with the target first
and the others in the order of their declaration. So a listing over a store never fails for the
type of an entity, and no stored entity whose bean can be got is left out of what it filters
for. -/
theorem listing_filter_agrees_with_conversion (registry : TypeRegistry) :
    (∀ target name,
      name ∈ registry.assignableTypeNames target ↔ registry.isAssignable name target = true) ∧
    (∀ target, (registry.assignableTypeNames target).Nodup ∧
      ∃ others, registry.assignableTypeNames target = target :: others ∧
        others.Sublist (registry.descriptors.map (·.name))) ∧
    (∀ (store : EntityStore) (settings : ServiceSettings) (k : BeanKind),
      (∀ page guid expected actual,
        (store.service registry settings).listBeans k.mapping page ≠
          .error (.typeMismatch guid expected actual)) ∧
      (∀ guid bean, (store.service registry settings).getBean k.mapping guid = .ok bean →
        ∃ e, store.get? guid = some e ∧
          e ∈ store.ofTypes (registry.assignableTypeNames k.mapping.typeName))) := by
  refine ⟨fun target name => TypeRegistry.mem_assignableTypeNames,
    fun target => registry.assignableTypeNames_spec target, fun store settings k => ⟨?_, ?_⟩⟩
  · intro page guid expected actual
    exact listBeans_ne_typeMismatch page guid expected actual
  · intro guid bean h
    exact mem_ofTypes_of_getBean h

/-- A view is got as a table, so listings of tables filter for it. -/
theorem view_mem_ofTypes :
    ∃ e, (EntityStore.ofList [(Entity.new "v1" "RelationalView").withProperty "displayName"
        (.text "open orders")]).get? "v1" = some e ∧
      e ∈ (EntityStore.ofList [(Entity.new "v1" "RelationalView").withProperty "displayName"
        (.text "open orders")]).ofTypes ["RelationalTable", "RelationalView"] := by
  obtain ⟨-, -, hstore⟩ := listing_filter_agrees_with_conversion .builtin
  exact (hstore _ Settings.default.service .table).2 "v1" _ rfl

/-! ## Pages and single beans -/

/-- The identifiers of the entities of a page of a listing over a store. -/
def pageGuids (store : EntityStore) (registry : TypeRegistry) (m : Mapping β)
    (startFrom pageSize : UInt64) : List String :=
  (pageEntities store registry m startFrom pageSize).map (·.guid)

/-- The entities of a page are those that are stored under its identifiers. -/
theorem map_get?_pageGuids (startFrom pageSize : UInt64) :
    (pageGuids store registry m startFrom pageSize).map store.get? =
      (pageEntities store registry m startFrom pageSize).map some := by
  rw [pageGuids, List.map_map]
  exact List.map_congr_left fun e he => EntityStore.get?_of_mem_find he

/-- On the page, a single bean is the one that its entity converts to. -/
theorem getBean_guid {startFrom pageSize : UInt64} {e : Entity}
    (he : e ∈ pageEntities store registry m startFrom pageSize) :
    (store.service registry settings).getBean m e.guid = registry.convert m e :=
  getBean_of_fetch (EntityStore.fetch_of_mem_find he)

theorem map_getBean_pageGuids (startFrom pageSize : UInt64) :
    (pageGuids store registry m startFrom pageSize).map
        ((store.service registry settings).getBean m) =
      (pageEntities store registry m startFrom pageSize).map (registry.convert m) := by
  rw [pageGuids, List.map_map]
  exact List.map_congr_left fun e he => getBean_guid he

/-- A listing gives a page of just the beans that are got by the identifiers of the page. -/
theorem listBeans_eq_ok_iff {page : PageRequest} {size : UInt64}
    (hsize : (store.service registry settings).resolvePageSize page.pageSize = .ok size)
    (p : Page β) :
    (store.service registry settings).listBeans m page = .ok p ↔
      (pageGuids store registry m page.startFrom size).map
          ((store.service registry settings).getBean m) = p.elements.map .ok ∧
        p.startFrom = page.startFrom ∧ p.pageSize = size := by
  rw [listBeans_eq_ok_iff_convertAll hsize, map_getBean_pageGuids,
    TypeRegistry.convertAll_eq_ok_iff]

/-- A listing fails with the error of the first bean of the page that cannot be got. -/
theorem listBeans_eq_error_iff {page : PageRequest} {size : UInt64}
    (hsize : (store.service registry settings).resolvePageSize page.pageSize = .ok size)
    (error : ServiceError) :
    (store.service registry settings).listBeans m page = .error error ↔
      ∃ (j : Nat) (guid : String),
        (pageGuids store registry m page.startFrom size)[j]? = some guid ∧
        (store.service registry settings).getBean m guid = .error error ∧
        ∀ i < j, ∀ guid', (pageGuids store registry m page.startFrom size)[i]? = some guid' →
          ∃ bean, (store.service registry settings).getBean m guid' = .ok bean := by
  rw [listBeans_eq_error_iff_convertAll hsize, TypeRegistry.convertAll_eq_error_iff]
  constructor
  · rintro ⟨j, e, he, herror, hbefore⟩
    refine ⟨j, e.guid, by rw [pageGuids, List.getElem?_map, he]; rfl, ?_, ?_⟩
    · rw [getBean_guid (List.mem_of_getElem? he)]
      exact herror
    · intro i hi guid' hguid'
      rw [pageGuids, List.getElem?_map] at hguid'
      obtain ⟨e', he', rfl⟩ := Option.map_eq_some_iff.mp hguid'
      rw [getBean_guid (List.mem_of_getElem? he')]
      exact hbefore i hi e' he'
  · rintro ⟨j, guid, hguid, herror, hbefore⟩
    rw [pageGuids, List.getElem?_map] at hguid
    obtain ⟨e, he, rfl⟩ := Option.map_eq_some_iff.mp hguid
    rw [getBean_guid (List.mem_of_getElem? he)] at herror
    refine ⟨j, e, he, herror, fun i hi e' he' => ?_⟩
    obtain ⟨bean, hbean⟩ := hbefore i hi e'.guid (by rw [pageGuids, List.getElem?_map, he']; rfl)
    rw [getBean_guid (List.mem_of_getElem? he')] at hbean
    exact ⟨bean, hbean⟩

/-- What is not on the page does not matter. -/
theorem listBeans_congr {page : PageRequest} {size : UInt64} {other : EntityStore}
    (hsize : (store.service registry settings).resolvePageSize page.pageSize = .ok size)
    (hguids : pageGuids other registry m page.startFrom size =
      pageGuids store registry m page.startFrom size)
    (hget : ∀ guid ∈ pageGuids store registry m page.startFrom size,
      other.get? guid = store.get? guid) :
    (other.service registry settings).listBeans m page =
      (store.service registry settings).listBeans m page := by
  have hsize' : (other.service registry settings).resolvePageSize page.pageSize = .ok size := hsize
  have hentities : pageEntities other registry m page.startFrom size =
      pageEntities store registry m page.startFrom size := by
    -- Entities are determined by what the store has under their identifiers.
    have hsome : (pageGuids other registry m page.startFrom size).map other.get? =
        (pageEntities other registry m page.startFrom size).map some := map_get?_pageGuids _ _
    rw [hguids, List.map_congr_left hget, map_get?_pageGuids] at hsome
    exact ((List.map_inj_right fun _ _ => Option.some.inj).mp hsome).symm
  rw [listBeans_eq hsize', listBeans_eq hsize, hentities]

/-- **A listing and the single beans of its page agree.** Over any store and for any page size
that is admitted, a listing succeeds just if every bean of the page can be got, and then it has
these beans in their order. Otherwise it fails with the error of the first of them that cannot
be got. Another store with the same entities on that page gives the same answer. -/
theorem listBeans_agrees_with_getBean (registry : TypeRegistry) (settings : ServiceSettings)
    (store : EntityStore) (k : BeanKind) (page : PageRequest) (size : UInt64)
    (hsize : (store.service registry settings).resolvePageSize page.pageSize = .ok size) :
    ((∃ p, (store.service registry settings).listBeans k.mapping page = .ok p) ↔
      ∀ guid ∈ pageGuids store registry k.mapping page.startFrom size,
        ∃ bean, (store.service registry settings).getBean k.mapping guid = .ok bean) ∧
    (∀ p, (store.service registry settings).listBeans k.mapping page = .ok p ↔
      (pageGuids store registry k.mapping page.startFrom size).map
          ((store.service registry settings).getBean k.mapping) = p.elements.map .ok ∧
        p.startFrom = page.startFrom ∧ p.pageSize = size) ∧
    (∀ error, (store.service registry settings).listBeans k.mapping page = .error error ↔
      ∃ (j : Nat) (guid : String),
        (pageGuids store registry k.mapping page.startFrom size)[j]? = some guid ∧
        (store.service registry settings).getBean k.mapping guid = .error error ∧
        ∀ i < j, ∀ guid', (pageGuids store registry k.mapping page.startFrom size)[i]? =
            some guid' →
          ∃ bean, (store.service registry settings).getBean k.mapping guid' = .ok bean) ∧
    (∀ other : EntityStore,
      pageGuids other registry k.mapping page.startFrom size =
        pageGuids store registry k.mapping page.startFrom size →
      (∀ guid ∈ pageGuids store registry k.mapping page.startFrom size,
        other.get? guid = store.get? guid) →
      (other.service registry settings).listBeans k.mapping page =
        (store.service registry settings).listBeans k.mapping page) := by
  refine ⟨?_, listBeans_eq_ok_iff hsize, listBeans_eq_error_iff hsize,
    fun other hguids hget => listBeans_congr hsize hguids hget⟩
  constructor
  · rintro ⟨p, hp⟩ guid hguid
    obtain ⟨hbeans, -⟩ := (listBeans_eq_ok_iff hsize p).mp hp
    have hmem : (store.service registry settings).getBean k.mapping guid ∈
        p.elements.map Except.ok := hbeans ▸ List.mem_map_of_mem hguid
    obtain ⟨bean, -, hbean⟩ := List.mem_map.mp hmem
    exact ⟨bean, hbean.symm⟩
  · intro hall
    cases hlist : (store.service registry settings).listBeans k.mapping page with
    | ok p => exact ⟨p, rfl⟩
    | error error =>
      obtain ⟨j, guid, hguid, herror, -⟩ := (listBeans_eq_error_iff hsize error).mp hlist
      obtain ⟨bean, hbean⟩ := hall guid (List.mem_of_getElem? hguid)
      rw [herror] at hbean
      cases hbean

/-- A store of three tables, the second of which has no name. -/
def namelessStore : EntityStore := .ofList
  [(Entity.new "t1" "RelationalTable").withProperty "displayName" (.text "orders"),
    Entity.new "t2" "RelationalTable",
    (Entity.new "t3" "RelationalTable").withProperty "displayName" (.text "items")]

/-- The table without a name keeps a page with it from succeeding, whatever comes before it, and no
other page. -/
theorem listBeans_missingAttribute :
    (namelessStore.service .builtin Settings.default.service).listBeans Table.mapping ⟨0, none⟩ =
      .error (.missingAttribute "t2" "displayName") ∧
    (namelessStore.service .builtin Settings.default.service).listBeans Table.mapping ⟨2, some 1⟩ =
      .ok ⟨[⟨"t3", "", "items", none, none, none, false, []⟩], 2, 1⟩ := by
  constructor
  · obtain ⟨-, -, herror, -⟩ := listBeans_agrees_with_getBean .builtin Settings.default.service
      namelessStore .table ⟨0, none⟩ 25 rfl
    refine (herror _).mpr ⟨1, "t2", rfl, rfl, fun i hi guid hguid => ?_⟩
    -- Only the first table comes before it.
    obtain rfl := Nat.lt_one_iff.mp hi
    obtain rfl := Option.some.inj hguid
    exact ⟨_, rfl⟩
  · obtain ⟨-, hok, -⟩ := listBeans_agrees_with_getBean .builtin Settings.default.service
      namelessStore .table ⟨2, some 1⟩ 1 rfl
    exact (hok _).mpr ⟨rfl, rfl, rfl⟩

end Service

end RelationalCatalog
