import RelationalCatalog.Proofs.Catalog.Listing
import RelationalCatalog.Proofs.Catalog.PageSize
import RelationalCatalog.Proofs.Text.Utf8

/-!
# Walks through a listing

A walk asks for a listing page by page, each page beginning where the one before it ended, until
a page is empty. Its pages may differ in size. Over a store that does not change, and if all
that a listing filters for converts, a page is a window of one list of beans
(`Service.listBeans_eq_window`), whatever its size. So the windows of a walk make up that list:
`Service.walk_enumerates_listing` says that a walk comes to its end and gives each bean of the
listing once, in the order of the identifiers' bytes.
-/

namespace RelationalCatalog

namespace Service

variable {β : Type} {store : EntityStore} {registry : TypeRegistry} {settings : ServiceSettings}
  {m : Mapping β} {beans : List β}

/-- The pages of a walk through a listing from a position on. The sizes are those that are asked
for, one page after the other, and those from the `n`-th one on are still to come. -/
inductive Walk (s : Service) (m : Mapping β) (sizes : Nat → Option UInt64) :
    (n : Nat) → (startFrom : UInt64) → List (Page β) → Prop
  /-- An empty page is the last one. -/
  | last {n : Nat} {startFrom : UInt64} {page : Page β}
    (hpage : s.listBeans m ⟨startFrom, sizes n⟩ = .ok page) (hempty : page.elements = []) :
    Walk s m sizes n startFrom [page]
  /-- Another one is followed by the page that begins where it ends. -/
  | next {n : Nat} {startFrom : UInt64} {page : Page β} {pages : List (Page β)}
    (hpage : s.listBeans m ⟨startFrom, sizes n⟩ = .ok page) (hnonempty : page.elements ≠ [])
    (hrest : Walk s m sizes (n + 1) (startFrom + UInt64.ofNat page.elements.length) pages) :
    Walk s m sizes n startFrom (page :: pages)

/-- There is no more than one walk from a position on. -/
theorem Walk.unique {s : Service} {sizes : Nat → Option UInt64} {n : Nat} {startFrom : UInt64}
    {pages pages' : List (Page β)} (h : Walk s m sizes n startFrom pages)
    (h' : Walk s m sizes n startFrom pages') : pages' = pages := by
  induction h generalizing pages' with
  | last hpage hempty =>
    cases h' with
    | last hpage' hempty' =>
      rw [hpage] at hpage'
      cases hpage'
      rfl
    | next hpage' hnonempty' hrest' =>
      rw [hpage] at hpage'
      cases hpage'
      exact absurd hempty hnonempty'
  | next hpage hnonempty hrest ih =>
    cases h' with
    | last hpage' hempty' =>
      rw [hpage] at hpage'
      cases hpage'
      exact absurd hempty' hnonempty
    | next hpage' hnonempty' hrest' =>
      rw [hpage] at hpage'
      cases hpage'
      rw [ih hrest']

/-! ## Windows -/

/-- If what a listing filters for converts, a page is a window of its beans. -/
theorem listBeans_eq_window
    (hbeans : (store.ofTypes (registry.assignableTypeNames m.typeName)).map (registry.convert m) =
      beans.map .ok) {page : PageRequest} {size : UInt64}
    (hsize : (store.service registry settings).resolvePageSize page.pageSize = .ok size) :
    (store.service registry settings).listBeans m page =
      .ok ⟨(beans.drop page.startFrom.toNat).take size.toNat, page.startFrom, size⟩ := by
  have hwindow : registry.convertAll m (pageEntities store registry m page.startFrom size) =
      .ok ((beans.drop page.startFrom.toNat).take size.toNat) := by
    rw [TypeRegistry.convertAll_eq_ok_iff, pageEntities, EntityStore.find, List.map_take,
      List.map_drop, hbeans, List.map_take, List.map_drop]
  rw [listBeans_eq hsize, hwindow]
  rfl

/-- If all entities that count as a type convert, a listing filters for entities that do. -/
theorem exists_beans_of_convert
    (hconvert : ∀ guid e, store.get? guid = some e →
      registry.isAssignable e.typeName m.typeName = true →
        ∃ bean, registry.convert m e = .ok bean) :
    ∃ beans : List β,
      (store.ofTypes (registry.assignableTypeNames m.typeName)).map (registry.convert m) =
        beans.map .ok := by
  cases hall : registry.convertAll m
      (store.ofTypes (registry.assignableTypeNames m.typeName)) with
  | ok beans => exact ⟨beans, TypeRegistry.convertAll_eq_ok_iff.mp hall⟩
  | error error =>
    obtain ⟨j, e, he, herror, -⟩ := TypeRegistry.convertAll_eq_error_iff.mp hall
    have hmem := List.mem_of_getElem? he
    have hassignable := TypeRegistry.mem_assignableTypeNames.mp (EntityStore.mem_ofTypes.mp hmem).2
    obtain ⟨bean, hbean⟩ := hconvert e.guid e (EntityStore.get?_of_mem_ofTypes hmem) hassignable
    rw [herror] at hbean
    cases hbean

/-! ## Walks -/

/-- From a position of the list on, there is a walk, and its pages make up the rest of the
list. -/
theorem exists_walk
    (hbeans : (store.ofTypes (registry.assignableTypeNames m.typeName)).map (registry.convert m) =
      beans.map .ok) {sizes : Nat → Option UInt64}
    (hsizes : ∀ n, ∃ size, (store.service registry settings).resolvePageSize (sizes n) =
      .ok size ∧ 0 < size)
    (hcount : beans.length < UInt64.size) (n : Nat) (startFrom : UInt64)
    (hstart : startFrom.toNat ≤ beans.length) :
    ∃ pages, Walk (store.service registry settings) m sizes n startFrom pages ∧
      pages.flatMap (·.elements) = beans.drop startFrom.toNat := by
  -- Every page that is not empty brings the walk closer to the end of the list.
  generalize hrest : beans.length - startFrom.toNat = rest
  induction rest using Nat.strongRecOn generalizing n startFrom with
  | ind rest ih =>
    obtain ⟨size, hsize, hpos⟩ := hsizes n
    have hpage : (store.service registry settings).listBeans m ⟨startFrom, sizes n⟩ =
        .ok ⟨(beans.drop startFrom.toNat).take size.toNat, startFrom, size⟩ :=
      listBeans_eq_window hbeans hsize
    have hroom : size.toNat ≠ 0 := Nat.pos_iff_ne_zero.mp (UInt64.lt_iff_toNat_lt.mp hpos)
    generalize hwindow : (beans.drop startFrom.toNat).take size.toNat = window at hpage
    by_cases hempty : window = []
    · refine ⟨_, .last hpage hempty, ?_⟩
      rw [List.flatMap_singleton, hempty]
      rw [hempty, List.take_eq_nil_iff] at hwindow
      exact (hwindow.resolve_left hroom).symm
    · have hprefix : window <+: beans.drop startFrom.toNat := hwindow ▸ List.take_prefix _ _
      have hlength : window.length ≤ beans.length - startFrom.toNat :=
        List.length_drop ▸ hprefix.length_le
      have hpositive := List.length_pos_iff.mpr hempty
      have hsize64 : UInt64.size = 2 ^ 64 := rfl
      have hnext : (startFrom + UInt64.ofNat window.length).toNat =
          startFrom.toNat + window.length := by
        rw [UInt64.toNat_add, UInt64.toNat_ofNat_of_lt' (by omega), Nat.mod_eq_of_lt (by omega)]
      obtain ⟨pages, hwalk, hpages⟩ := ih _ (by omega) (n + 1)
        (startFrom + UInt64.ofNat window.length) (by omega) rfl
      refine ⟨_, .next hpage hempty hwalk, ?_⟩
      rw [List.flatMap_cons, hpages, hnext, ← List.drop_drop]
      exact List.prefix_iff_eq_append.mp hprefix

/-- **A walk enumerates a listing.** Over a store whose listed entities all convert, a walk from
the beginning comes to its end, whatever the sizes of its pages. Its elements are the beans of
the entities whose type counts as the bean's, each once and in the order of the bytes of their
identifiers. Behind them, up to the last position there is, all pages are empty. A store in
memory has fewer entities than 64 bits can count, so each of them has a position. -/
theorem walk_enumerates_listing (settings : Settings) (store : EntityStore) (c : Catalog)
    (k : BeanKind) (sizes : Nat → Option UInt64)
    (haccepted : Catalog.ofSettings settings store.repository = .ok c)
    (hcount : store.size < UInt64.size)
    (hconvert : ∀ guid e, store.get? guid = some e →
      c.service.registry.isAssignable e.typeName k.mapping.typeName = true →
        ∃ bean, c.service.registry.convert k.mapping e = .ok bean)
    (hsizes : ∀ n, ∃ size, c.service.resolvePageSize (sizes n) = .ok size) :
    ∃ (pages : List (Page k.Bean)) (listed : List Entity),
      (∀ pages', Walk c.service k.mapping sizes 0 0 pages' ↔ pages' = pages) ∧
      listed.map (c.service.registry.convert k.mapping) =
        (pages.flatMap (·.elements)).map .ok ∧
      (∀ e, e ∈ listed ↔ store.get? e.guid = some e ∧
        c.service.registry.isAssignable e.typeName k.mapping.typeName = true) ∧
      (listed.map (·.guid)).Pairwise (fun a b => textBytes a < textBytes b) ∧
      (∀ (startFrom : UInt64) (requested : Option UInt64) (size : UInt64),
        (pages.flatMap (·.elements)).length ≤ startFrom.toNat →
        c.service.resolvePageSize requested = .ok size →
          c.service.listBeans k.mapping ⟨startFrom, requested⟩ = .ok ⟨[], startFrom, size⟩) := by
  obtain ⟨registry, -, -, hc⟩ := Catalog.exists_ofParts_of_ofSettings haccepted
  have hservice : c.service = store.service registry settings.service := hc ▸ rfl
  have hregistry : (store.service registry settings.service).registry = registry := rfl
  have hsizes' : ∀ n, ∃ size, c.service.resolvePageSize (sizes n) = .ok size ∧ 0 < size := by
    intro n
    obtain ⟨size, hsize⟩ := hsizes n
    exact ⟨size, hsize, Catalog.resolvePageSize_pos haccepted hsize⟩
  rw [hservice] at hconvert hsizes' ⊢
  rw [hregistry] at hconvert ⊢
  obtain ⟨beans, hbeans⟩ := exists_beans_of_convert hconvert
  have hlength : beans.length ≤ store.size := by
    have hmap := congrArg List.length hbeans
    rw [List.length_map, List.length_map] at hmap
    rw [← hmap]
    exact store.length_ofTypes_le _
  obtain ⟨pages, hwalk, hpages⟩ :=
    exists_walk hbeans hsizes' (Nat.lt_of_le_of_lt hlength hcount) 0 0 (Nat.zero_le _)
  rw [UInt64.toNat_zero, List.drop_zero] at hpages
  refine ⟨pages, store.ofTypes (registry.assignableTypeNames k.mapping.typeName), ?_, ?_, ?_, ?_,
    ?_⟩
  · intro pages'
    exact ⟨fun h => hwalk.unique h, fun h => h ▸ hwalk⟩
  · rw [hpages]
    exact hbeans
  · intro e
    rw [EntityStore.mem_ofTypes, TypeRegistry.mem_assignableTypeNames,
      EntityStore.get?_eq_some_iff, eq_self, and_true]
  · have hsorted := store.pairwise_guidsOf (registry.assignableTypeNames k.mapping.typeName)
    exact hsorted.imp textBytes_lt_iff.mpr
  · intro startFrom requested size hend hsize
    rw [hpages] at hend
    rw [listBeans_eq_window hbeans hsize, List.drop_of_length_le hend, List.take_nil]

/-- A store of a table, a view and, between them, a column that does not convert. -/
def sampleStore : EntityStore := .ofList
  [(Entity.new "t1" "RelationalTable").withProperty "displayName" (.text "orders"),
    Entity.new "u1" "RelationalColumn",
    (Entity.new "v1" "RelationalView").withProperty "displayName" (.text "open orders")]

/-- A walk through the tables finds the view behind the column. -/
theorem walk_finds_view :
    ∃ pages : List (Page Table),
      Walk (Catalog.ofParts Settings.default .builtin sampleStore.repository).service Table.mapping
        (fun n => if n = 0 then some 1 else none) 0 0 pages ∧
      ∃ table ∈ pages.flatMap (·.elements), table.guid = "v1" := by
  obtain ⟨pages, listed, hwalk, hbeans, hlisted, -⟩ := walk_enumerates_listing Settings.default
    sampleStore (Catalog.ofParts Settings.default .builtin sampleStore.repository) .table
    (fun n => if n = 0 then some 1 else none) rfl (by decide)
    (fun guid e hget hassignable => by
      obtain ⟨hmem, -⟩ := EntityStore.get?_eq_some_iff.mp hget
      rcases hmem with _ | ⟨_, _ | ⟨_, _ | ⟨_, hnil⟩⟩⟩
      · exact ⟨_, rfl⟩
      · exact absurd hassignable (by decide)
      · exact ⟨_, rfl⟩
      · cases hnil)
    (fun n => by
      cases n with
      | zero => exact ⟨1, rfl⟩
      | succ n => exact ⟨25, rfl⟩)
  refine ⟨pages, (hwalk pages).mpr rfl, ?_⟩
  have hview := (hlisted ((Entity.new "v1" "RelationalView").withProperty "displayName"
    (.text "open orders"))).mpr ⟨rfl, by decide⟩
  have hbean : TypeRegistry.builtin.convert BeanKind.table.mapping _ ∈
      (pages.flatMap (·.elements)).map .ok := hbeans ▸ List.mem_map_of_mem hview
  obtain ⟨table, htable, hconvert⟩ := List.mem_map.mp hbean
  cases hconvert
  exact ⟨_, htable, rfl⟩

end Service

end RelationalCatalog
