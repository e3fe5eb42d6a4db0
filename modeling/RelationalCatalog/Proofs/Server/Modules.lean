import RelationalCatalog.Proofs.Catalog.Settings
import RelationalCatalog.Server.Settings

/-!
# No setting of a module is dropped

The settings of a module are looked for in one place, the member `config` of the object under the
module's name. If that place is not there, the module has its defaults (`ServerSettings.Unwritten`),
and nothing else is looked at. If it is, what is written there counts as a whole: an object must
stand for settings (`Settings.Denotes`), in which a misspelt name has no place, and a value that is
neither an object nor an array is refused (`ServerSettings.moduleSettings_strict`).
-/

namespace RelationalCatalog

namespace ServerSettings

variable {s : ServerSettings} {name : String} {v : Json}

/-- The ways in which no settings are written for a module. -/
inductive Unwritten (s : ServerSettings) (name : String) : Prop
  /-- There is no such module. -/
  | missing (h : s.modules.get? name = none)
  /-- What is there under its name is no object. -/
  | scalar {v : Json} (h : s.modules.get? name = some v) (hv : ∀ members, v ≠ .obj members)
  /-- The object has no member for settings. -/
  | bare {members : List (String × Json)} (h : s.modules.get? name = some (.obj members))
    (hconfig : "config" ∉ members.map (·.1))

theorem written?_eq_some_iff :
    s.written? name = some v ↔
      ∃ members, s.modules.get? name = some (.obj members) ∧
        (Json.obj members).member? "config" = some v := by
  rw [written?, Option.bind_eq_some_iff]
  constructor
  · rintro ⟨w, hw, hv⟩
    cases w with
    | obj members => exact ⟨members, hw, hv⟩
    | _ => cases hv
  · rintro ⟨members, hmembers, hv⟩
    exact ⟨.obj members, hmembers, hv⟩

theorem written?_eq_none_iff : s.written? name = none ↔ s.Unwritten name := by
  constructor
  · intro h
    cases hget : s.modules.get? name with
    | none => exact .missing hget
    | some v =>
      rw [written?, hget, Option.bind_some] at h
      cases v with
      | obj members => exact .bare hget (Json.member?_eq_none_iff.mp h)
      | _ => exact .scalar hget nofun
  · intro h
    refine Option.eq_none_iff_forall_ne_some.mpr fun v hv => ?_
    obtain ⟨members, hget, hmember⟩ := written?_eq_some_iff.mp hv
    cases h with
    | missing hnone => cases hnone.symm.trans hget
    | scalar hsome hne => exact hne members (Option.some.inj (hsome.symm.trans hget))
    | bare hsome hconfig =>
      cases hsome.symm.trans hget
      rw [Json.member?_eq_none_iff.mpr hconfig] at hmember
      cases hmember

/-- Without settings, a module has its defaults. -/
theorem moduleSettings_of_unwritten (h : s.Unwritten name) :
    s.moduleSettings name = .ok Settings.default := by
  rw [moduleSettings, written?_eq_none_iff.mpr h]

/-- What is written is decoded as a whole. -/
theorem moduleSettings_eq_ok_iff_of_written (h : s.written? name = some v) {settings : Settings} :
    s.moduleSettings name = .ok settings ↔ decodeValue Settings.decode v = .ok settings := by
  simp only [moduleSettings, h]
  cases decodeValue Settings.decode v <;> simp

/-- What is neither an object nor an array is no settings. -/
theorem exists_moduleSettings_eq_error (h : s.written? name = some v)
    (hobj : ∀ members, v ≠ .obj members) (harr : ∀ items, v ≠ .arr items) :
    ∃ report, s.moduleSettings name = .error report := by
  cases hresult : s.moduleSettings name with
  | error report => exact ⟨report, rfl⟩
  | ok settings =>
    have hdecode := (moduleSettings_eq_ok_iff_of_written h).mp hresult
    cases v with
    | obj members => exact absurd rfl (hobj members)
    | arr items => exact absurd rfl (harr items)
    | _ => cases hdecode

/-- **The settings of a module are its defaults just if none are written, and else what is written,
word for word.** Those of other modules do not matter. -/
theorem moduleSettings_strict (s : ServerSettings) (name : String) :
    (s.written? name = none ↔ s.Unwritten name) ∧
    (s.Unwritten name → s.moduleSettings name = .ok Settings.default) ∧
    (∀ members, s.written? name = some (.obj members) → ∀ settings,
      s.moduleSettings name = .ok settings ↔ Settings.Denotes members settings) ∧
    (∀ v, s.written? name = some v → (∀ members, v ≠ .obj members) → (∀ items, v ≠ .arr items) →
      ∃ report, s.moduleSettings name = .error report) ∧
    (∀ s' : ServerSettings, s'.modules.get? name = s.modules.get? name →
      s'.moduleSettings name = s.moduleSettings name) := by
  refine ⟨written?_eq_none_iff, moduleSettings_of_unwritten, fun members h settings => ?_,
    fun v => exists_moduleSettings_eq_error, fun s' h => ?_⟩
  · exact (moduleSettings_eq_ok_iff_of_written h).trans Settings.decode_obj_eq_ok_iff
  · rw [moduleSettings, moduleSettings, written?, written?, h]

/-- Settings with one module, for which an object is written. -/
def withModule (name : String) (config : List (String × Json)) : ServerSettings :=
  { default with modules := SortedMap.empty.insert name (.obj [("config", .obj config)]) }

/-- With one letter wrong the users are not everybody, but the settings are refused. -/
theorem misspelt_users_refused :
    (∀ settings, (withModule "catalog" [("authorised_users", .ofTexts ["ann"])]).moduleSettings
      "catalog" ≠ .ok settings) ∧
    (withModule "catalog" [("authorized_users", .ofTexts ["ann"])]).moduleSettings "catalog" =
      .ok { Settings.default with authorizedUsers := some ["ann"] } := by
  refine ⟨fun settings h => ?_, ?_⟩
  · have hdenotes := ((moduleSettings_strict _ _).2.2.1 _ rfl settings).mp h
    have hlisted := hdenotes.listed "authorised_users" (by simp)
    simp at hlisted
  · refine ((moduleSettings_strict _ _).2.2.1 _ rfl _).mpr ?_
    exact ⟨by simp, by simp, rfl, rfl, rfl, rfl, .inr ⟨_, rfl, rfl⟩, rfl⟩

end ServerSettings

end RelationalCatalog
