import RelationalCatalog.Proofs.Catalog.Log
import RelationalCatalog.Proofs.Catalog.PageSize
import RelationalCatalog.Proofs.Types.Registration

/-!
# Which settings make a catalog

A catalog is made of settings just if their page sizes and their types are sound
(`Catalog.exists_init_iff`), and what is not sound is reported, the page sizes first
(`Catalog.init_eq_error_iff`). The catalog then has the types and the entities of the settings
(`Catalog.Holds`): all types in their order, and of the entities with one identifier the last one.
-/

namespace RelationalCatalog

namespace Settings

variable {s : Settings}

/-- Whether there can be pages of the default size. -/
def Paged (s : Settings) : Prop := 0 < s.defaultPageSize ∧ s.defaultPageSize ≤ s.maxPageSize

/-- Whether the types can be told apart by names that are not blank. -/
def Named (s : Settings) : Prop :=
  s.types = [] ∨ (∀ d ∈ s.types, trimBlanks d.name.toList ≠ []) ∧ (s.types.map (·.name)).Nodup

instance : Decidable s.Paged := inferInstanceAs (Decidable (_ ∧ _))

instance : Decidable s.Named := inferInstanceAs (Decidable (_ ∨ _))

/-- The types of a catalog with the settings: those of the settings, or the built-in ones if the
settings have none. -/
def catalogTypes (s : Settings) : List TypeDescriptor :=
  if s.types = [] then TypeRegistry.builtinTypes else s.types

theorem not_paged_of_pageSizeFault? {fault : PageSizeFault} (h : s.pageSizeFault? = some fault) :
    ¬ s.Paged := by
  intro hpaged
  rw [pageSizeFault?_eq_none_iff.mpr hpaged] at h
  cases h

/-- The built-in types are registered like others. -/
theorem registry_eq (s : Settings) : s.registry = TypeRegistry.ofDescriptors s.catalogTypes := by
  rw [registry, catalogTypes]
  cases s.types with
  | nil => exact TypeRegistry.ofDescriptors_builtinTypes.symm
  | cons d ds => rfl

theorem descriptors_of_registry {r : TypeRegistry} (h : s.registry = .ok r) :
    r.descriptors = s.catalogTypes :=
  TypeRegistry.descriptors_of_ofDescriptors (s.registry_eq ▸ h)

theorem exists_registry_iff : (∃ r, s.registry = .ok r) ↔ s.Named := by
  rw [registry_eq, catalogTypes, Named]
  -- Without types the built-in ones are registered, which need no look at the settings.
  split
  · rename_i hnone
    exact iff_of_true ⟨_, TypeRegistry.ofDescriptors_builtinTypes⟩ (.inl hnone)
  · rename_i hsome
    simp only [TypeRegistry.exists_ofDescriptors_iff, isBlankText_eq_false_iff, hsome, false_or]

theorem not_named_of_registry {error : RegistryError} (h : s.registry = .error error) :
    ¬ s.Named := by
  intro hnamed
  obtain ⟨r, hr⟩ := exists_registry_iff.mpr hnamed
  cases h.symm.trans hr

/-- Types that are not registered have a fault, and the first one is reported. -/
theorem registry_eq_error_iff {error : RegistryError} :
    s.registry = .error error ↔
      ∃ position, nameFault? s.types position = some error ∧
        ∀ earlier < position, nameFault? s.types earlier = none := by
  cases htypes : s.types with
  | nil =>
    rw [registry_eq, catalogTypes, if_pos htypes, TypeRegistry.ofDescriptors_builtinTypes]
    exact iff_of_false nofun nofun
  | cons d ds =>
    have hsome : s.types ≠ [] := htypes ▸ List.cons_ne_nil d ds
    rw [registry_eq, catalogTypes, if_neg hsome, TypeRegistry.ofDescriptors_eq_error_iff, htypes]

end Settings

namespace Catalog

variable {settings : Settings} {c : Catalog}

/-- A catalog has the types and the entities of settings. -/
structure Holds (c : Catalog) (settings : Settings) : Prop where
  /-- its types are those of the settings, in their order -/
  types : c.service.registry.descriptors = settings.catalogTypes
  /-- the last entity of an identifier is fetched, and no other one -/
  fetched : ∀ guid, Log.Answers settings.entities (.fetch guid)
    (.fetched (c.service.repository.fetch guid))
  /-- just the last entities are found -/
  found : ∀ typeNames startFrom pageSize, ∃ es,
    c.service.repository.find typeNames startFrom pageSize = .ok es ∧
      Log.Answers settings.entities (.find typeNames startFrom pageSize) (.found es)

theorem init_eq_ok_iff :
    init settings = .ok c ↔
      settings.Paged ∧ ∃ registry, settings.registry = .ok registry ∧
        c = ofParts settings registry (initialStore settings).repository := by
  constructor
  · intro h
    obtain ⟨registry, hregistry, hfault, hc⟩ := exists_ofParts_of_ofSettings h
    exact ⟨Settings.pageSizeFault?_eq_none_iff.mp hfault, registry, hregistry, hc⟩
  · rintro ⟨hpaged, registry, hregistry, rfl⟩
    rw [init, ofSettings, Settings.pageSizeFault?_eq_none_iff.mpr hpaged, hregistry]

/-- **A catalog is made of settings with sound page sizes and sound types.** -/
theorem exists_init_iff : (∃ c, init settings = .ok c) ↔ settings.Paged ∧ settings.Named := by
  rw [← Settings.exists_registry_iff]
  constructor
  · rintro ⟨c, hc⟩
    obtain ⟨hpaged, registry, hregistry, -⟩ := init_eq_ok_iff.mp hc
    exact ⟨hpaged, registry, hregistry⟩
  · rintro ⟨hpaged, registry, hregistry⟩
    exact ⟨_, init_eq_ok_iff.mpr ⟨hpaged, registry, hregistry, rfl⟩⟩

/-- A fault of the types is reported only if the page sizes have none. -/
theorem init_eq_error_iff {fault : SettingsFault} :
    init settings = .error fault ↔
      (∃ f, settings.pageSizeFault? = some f ∧ fault = .pageSize f) ∨
        settings.Paged ∧ ∃ error, settings.registry = .error error ∧ fault = .types error := by
  rw [init, ofSettings, Settings.Paged, ← Settings.pageSizeFault?_eq_none_iff]
  cases settings.pageSizeFault? with
  | some f => simp [eq_comm]
  | none => cases settings.registry <;> simp [eq_comm]

/-- The store of a catalog is made of the entities one after the other. -/
theorem holds_of_init (h : init settings = .ok c) : c.Holds settings := by
  obtain ⟨-, registry, hregistry, rfl⟩ := init_eq_ok_iff.mp h
  have hstore := EntityStore.represents_ofList settings.entities
  exact {
    types := Settings.descriptors_of_registry hregistry
    fetched := fun guid => hstore.answers_step (.fetch guid)
    found := fun typeNames startFrom pageSize =>
      ⟨_, rfl, hstore.answers_step (.find typeNames startFrom pageSize)⟩ }

end Catalog

end RelationalCatalog
