import RelationalCatalog.Proofs.Catalog.Listing
import RelationalCatalog.Rest.Handler

/-!
# Page sizes

Settings are accepted only with page sizes that a page can have, and a request is served only
with such a size. The size of a request that names none is checked with the settings and never
again, any other one is checked with the request (`ServiceSettings.Refuses`). Both keep to the
same limits, so the pages of an accepted catalog do (`Catalog.pages_within_limits`), and there is
always room for an element (`Catalog.resolvePageSize_pos`).
-/

namespace RelationalCatalog

/-- Without a fault, the default page size is positive and not above the largest. -/
theorem Settings.pageSizeFault?_eq_none_iff {settings : Settings} :
    settings.pageSizeFault? = none ↔
      0 < settings.defaultPageSize ∧ settings.defaultPageSize ≤ settings.maxPageSize := by
  constructor
  · intro h
    rw [pageSizeFault?] at h
    split at h
    · cases h
    · split at h
      · cases h
      · rename_i hdefault
        split at h
        · cases h
        · rename_i hmax
          exact ⟨UInt64.pos_iff_ne_zero.mpr hdefault, UInt64.not_lt.mp hmax⟩
  · rintro ⟨hpos, hle⟩
    have hmax : settings.maxPageSize ≠ 0 :=
      UInt64.pos_iff_ne_zero.mp (UInt64.lt_of_lt_of_le hpos hle)
    rw [pageSizeFault?, if_neg hmax, if_neg (UInt64.pos_iff_ne_zero.mp hpos),
      if_neg (UInt64.not_lt.mpr hle)]

/-- Whether a page size is named that is zero or above the largest. -/
def ServiceSettings.Refuses (settings : ServiceSettings) (requested : Option UInt64) : Prop :=
  ∃ size, requested = some size ∧ (size = 0 ∨ settings.maxPageSize < size)

/-- With accepted settings, a page size that is not refused is within the limits. -/
theorem Settings.pageSize_of_not_refuses {settings : Settings}
    (haccepted : settings.pageSizeFault? = none) {requested : Option UInt64}
    (h : ¬ settings.service.Refuses requested) :
    0 < requested.getD settings.defaultPageSize ∧
      requested.getD settings.defaultPageSize ≤ settings.maxPageSize := by
  cases requested with
  | none => exact pageSizeFault?_eq_none_iff.mp haccepted
  | some size =>
    have hzero : size ≠ 0 := fun hzero => h ⟨size, rfl, .inl hzero⟩
    have hlarge : ¬ settings.maxPageSize < size := fun hlarge => h ⟨size, rfl, .inr hlarge⟩
    exact ⟨UInt64.pos_iff_ne_zero.mpr hzero, UInt64.not_lt.mp hlarge⟩

namespace Service

variable {β : Type} {s : Service} {requested : Option UInt64} {m : Mapping β} {page : PageRequest}

/-- A page size that is not refused is taken as it is. -/
theorem resolvePageSize_of_not_refuses (h : ¬ s.settings.Refuses requested) :
    s.resolvePageSize requested = .ok (requested.getD s.settings.defaultPageSize) := by
  cases requested with
  | none => rfl
  | some size =>
    have hzero : size ≠ 0 := fun hzero => h ⟨size, rfl, .inl hzero⟩
    have hlarge : ¬ s.settings.maxPageSize < size := fun hlarge => h ⟨size, rfl, .inr hlarge⟩
    rw [resolvePageSize, if_neg hzero, if_neg hlarge, Option.getD_some]

/-- A refused one is an error. -/
theorem exists_reason_of_refuses (h : s.settings.Refuses requested) :
    ∃ reason, s.resolvePageSize requested = .error (.invalidPaging reason) := by
  obtain ⟨size, rfl, hsize⟩ := h
  by_cases hzero : size = 0
  · exact ⟨_, if_pos hzero⟩
  · have hlarge : s.settings.maxPageSize < size := hsize.resolve_left hzero
    exact ⟨_, (if_neg hzero).trans (if_pos hlarge)⟩

theorem resolvePageSize_eq_ok_iff {size : UInt64} :
    s.resolvePageSize requested = .ok size ↔
      ¬ s.settings.Refuses requested ∧ size = requested.getD s.settings.defaultPageSize := by
  constructor
  · intro hsize
    have hnot : ¬ s.settings.Refuses requested := by
      intro h
      obtain ⟨reason, hreason⟩ := exists_reason_of_refuses h
      rw [hreason] at hsize
      cases hsize
    rw [resolvePageSize_of_not_refuses hnot] at hsize
    exact ⟨hnot, (Except.ok.inj hsize).symm⟩
  · rintro ⟨hnot, rfl⟩
    exact resolvePageSize_of_not_refuses hnot

/-- A listing of a refused size fails before the repository is asked: it fails alike with any
other one. -/
theorem listBeans_of_refuses (m : Mapping β) (h : s.settings.Refuses page.pageSize) :
    ∃ reason, ∀ repository : Repository,
      { s with repository }.listBeans m page = .error (.invalidPaging reason) := by
  obtain ⟨reason, hreason⟩ := exists_reason_of_refuses h
  refine ⟨reason, fun repository => ?_⟩
  have hsize : { s with repository }.resolvePageSize page.pageSize =
      .error (.invalidPaging reason) := hreason
  rw [listBeans, hsize]
  rfl

theorem not_refuses_of_listBeans {p : Page β} (h : s.listBeans m page = .ok p) :
    ¬ s.settings.Refuses page.pageSize := by
  intro hrefuses
  obtain ⟨reason, hreason⟩ := listBeans_of_refuses m hrefuses
  have herror : s.listBeans m page = .error (.invalidPaging reason) := hreason s.repository
  rw [h] at herror
  cases herror

variable {store : EntityStore} {registry : TypeRegistry} {settings : ServiceSettings}

/-- A listing over a store fails for the paging only if the size is refused. -/
theorem refuses_of_listBeans {reason : String}
    (h : (store.service registry settings).listBeans m page = .error (.invalidPaging reason)) :
    settings.Refuses page.pageSize := by
  by_cases hrefuses : settings.Refuses page.pageSize
  · exact hrefuses
  · have hsize := resolvePageSize_of_not_refuses (s := store.service registry settings) hrefuses
    obtain ⟨e, -, herror⟩ := exists_convert_of_listBeans hsize h
    exact absurd herror (TypeRegistry.convert_ne_invalidPaging e reason)

/-- A page has as many elements as there are left for it, up to its size. -/
theorem length_of_listBeans {size : UInt64} {p : Page β}
    (hsize : (store.service registry settings).resolvePageSize page.pageSize = .ok size)
    (h : (store.service registry settings).listBeans m page = .ok p) :
    p.elements.length = min size.toNat
      (store.entities.values.countP (fun e => registry.isAssignable e.typeName m.typeName) -
        page.startFrom.toNat) := by
  obtain ⟨hall, -⟩ := (listBeans_eq_ok_iff_convertAll hsize p).mp h
  rw [TypeRegistry.length_of_convertAll hall, pageEntities, EntityStore.find, List.length_take,
    List.length_drop, length_ofTypes_assignableTypeNames]

end Service

namespace Catalog

variable {settings : Settings} {repository : Repository} {c : Catalog}

/-- The catalog of accepted settings is made from their parts. -/
theorem exists_ofParts_of_ofSettings (h : ofSettings settings repository = .ok c) :
    ∃ registry, settings.registry = .ok registry ∧ settings.pageSizeFault? = none ∧
      c = ofParts settings registry repository := by
  rw [ofSettings] at h
  split at h
  · cases h
  · rename_i hfault
    split at h
    · cases h
    · rename_i registry hregistry
      cases h
      exact ⟨registry, hregistry, hfault, rfl⟩

/-- A page size that a request gets has room for an element. -/
theorem resolvePageSize_pos (h : ofSettings settings repository = .ok c)
    {requested : Option UInt64} {size : UInt64}
    (hsize : c.service.resolvePageSize requested = .ok size) : 0 < size := by
  obtain ⟨registry, -, hfault, rfl⟩ := exists_ofParts_of_ofSettings h
  obtain ⟨hnot, rfl⟩ := Service.resolvePageSize_eq_ok_iff.mp hsize
  exact (Settings.pageSize_of_not_refuses hfault hnot).1

/-- **The pages of an accepted catalog keep to the limits.** A listing fails for its paging just
if a page size is named that is zero or above the largest, and then it fails whatever the
repository is. Every other request gets the size that it names, or else the default one, and
this size is positive and not above the largest. A page shows this size and the position that
was asked for, and has as many elements as are left behind that position, up to its size. The
catalog that is made with the store of its settings is one of those over any store. -/
theorem pages_within_limits (settings : Settings) (store : EntityStore) (c : Catalog)
    (haccepted : ofSettings settings store.repository = .ok c) (k : BeanKind)
    (page : PageRequest) :
    ((∃ reason, c.service.listBeans k.mapping page = .error (.invalidPaging reason)) ↔
      ∃ size, page.pageSize = some size ∧ (size = 0 ∨ settings.maxPageSize < size)) ∧
    (∀ reason, c.service.listBeans k.mapping page = .error (.invalidPaging reason) →
      ∀ repository : Repository,
        { c.service with repository }.listBeans k.mapping page =
          .error (.invalidPaging reason)) ∧
    (¬ (∃ size, page.pageSize = some size ∧ (size = 0 ∨ settings.maxPageSize < size)) →
      c.service.resolvePageSize page.pageSize =
          .ok (page.pageSize.getD settings.defaultPageSize) ∧
        1 ≤ page.pageSize.getD settings.defaultPageSize ∧
        page.pageSize.getD settings.defaultPageSize ≤ settings.maxPageSize) ∧
    (∀ p, c.service.listBeans k.mapping page = .ok p →
      p.pageSize = page.pageSize.getD settings.defaultPageSize ∧
        p.startFrom = page.startFrom ∧
        p.elements.length = min p.pageSize.toNat
          (store.entities.values.countP
              (fun e => c.service.registry.isAssignable e.typeName k.mapping.typeName) -
            page.startFrom.toNat) ∧
        p.elements.length ≤ settings.maxPageSize.toNat) := by
  obtain ⟨registry, -, hfault, rfl⟩ := exists_ofParts_of_ofSettings haccepted
  have hservice : (ofParts settings registry store.repository).service =
      store.service registry settings.service := rfl
  rw [hservice]
  refine ⟨⟨fun ⟨reason, h⟩ => Service.refuses_of_listBeans h, fun h => ?_⟩, ?_, ?_, ?_⟩
  · obtain ⟨reason, hreason⟩ := Service.listBeans_of_refuses
      (s := store.service registry settings.service) k.mapping h
    exact ⟨reason, hreason store.repository⟩
  · intro reason h repository
    obtain ⟨reason', hreason⟩ := Service.listBeans_of_refuses
      (s := store.service registry settings.service) k.mapping (Service.refuses_of_listBeans h)
    have hsame : (store.service registry settings.service).listBeans k.mapping page =
        .error (.invalidPaging reason') := hreason store.repository
    rw [h] at hsame
    cases hsame
    exact hreason repository
  · intro h
    obtain ⟨hpos, hle⟩ := Settings.pageSize_of_not_refuses hfault h
    refine ⟨Service.resolvePageSize_of_not_refuses h, ?_, hle⟩
    exact UInt64.le_iff_toNat_le.mpr (UInt64.lt_iff_toNat_lt.mp hpos)
  · intro p h
    have hnot := Service.not_refuses_of_listBeans h
    have hsize := Service.resolvePageSize_of_not_refuses hnot
    obtain ⟨-, hstart, hpage⟩ := (Service.listBeans_eq_ok_iff_convertAll hsize p).mp h
    have hlength := Service.length_of_listBeans hsize h
    obtain ⟨-, hle⟩ := Settings.pageSize_of_not_refuses hfault hnot
    refine ⟨hpage, hstart, by rw [hpage]; exact hlength, ?_⟩
    rw [hlength]
    exact Nat.le_trans (Nat.min_le_left _ _) (UInt64.le_iff_toNat_le.mp hle)

/-- Settings of three tables and pages of no more than two. -/
def pairSettings : Settings :=
  { Settings.default with
    entities := [
      (Entity.new "a" "RelationalTable").withProperty "displayName" (.text "orders"),
      (Entity.new "b" "RelationalView").withProperty "displayName" (.text "open orders"),
      (Entity.new "c" "RelationalTable").withProperty "displayName" (.text "customers")]
    defaultPageSize := 1
    maxPageSize := 2 }

/-- A page of three is refused, and the last table is alone on the page behind the other two. -/
theorem last_table_alone :
    ∃ c, init pairSettings = .ok c ∧
      (∃ reason, c.service.listBeans BeanKind.table.mapping ⟨0, some 3⟩ =
        .error (.invalidPaging reason)) ∧
      ∃ p, c.service.listBeans BeanKind.table.mapping ⟨2, some 2⟩ = .ok p ∧
        p.elements.length = 1 := by
  refine ⟨ofParts pairSettings .builtin (initialStore pairSettings).repository, rfl, ?_, _, rfl,
    ?_⟩
  · obtain ⟨hrefused, -⟩ :=
      pages_within_limits pairSettings (initialStore pairSettings) _ rfl .table ⟨0, some 3⟩
    exact hrefused.mpr ⟨3, rfl, .inr (by decide)⟩
  · obtain ⟨-, -, -, hpages⟩ :=
      pages_within_limits pairSettings (initialStore pairSettings) _ rfl .table ⟨2, some 2⟩
    obtain ⟨-, -, hlength, -⟩ := hpages _ rfl
    rw [hlength]
    rfl

end Catalog

end RelationalCatalog
