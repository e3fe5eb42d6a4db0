import RelationalCatalog.Command.Run
import RelationalCatalog.Proofs.Catalog.Acceptance
import RelationalCatalog.Proofs.Outcome
import RelationalCatalog.Proofs.Server.Modules
import RelationalCatalog.Proofs.Server.Overrides

/-!
# Checking finds what running does

Checking settings and running the server with them are two programs, and each goes through the
steps on its own. They are the same steps in the same order (`ServerSettings.setup`), and only what
is made of the result is different (`ServerSettings.perform_eq`). So settings that pass the check
are those with which the server gets to listen, and both are the sound ones
(`ServerSettings.Sound`). A fault is reported by both, the first one if there are several
(`ServerSettings.FirstFault`).
-/

namespace RelationalCatalog

namespace ServerSettings

/-- Makes what the server needs, beginning with the settings of the catalog. -/
def setup (s : ServerSettings) : Except Report Setup := do
  let settings ← s.moduleSettings catalogModule
  s.prepare settings

/-- Whether there is nothing wrong with settings. -/
def Sound (s : ServerSettings) : Prop :=
  s.Readable ∧
    ∃ settings, s.moduleSettings catalogModule = .ok settings ∧ settings.Paged ∧ settings.Named

/-- The first thing that is wrong with settings, as it is reported. -/
inductive FirstFault (s : ServerSettings) : Report → Prop
  /-- The settings of the catalog cannot be read. -/
  | undecoded {report : Report} (h : s.moduleSettings catalogModule = .error report) :
    FirstFault s report
  /-- They can, but the address cannot. -/
  | address {settings : Settings} (hsettings : s.moduleSettings catalogModule = .ok settings)
    (h : ¬ s.Readable) :
    FirstFault s
      ⟨[s!"invalid bind address '{s.listen.address}'", "invalid socket address syntax"]⟩
  /-- Both can, but the page sizes are not sound. -/
  | pageSizes {settings : Settings} {fault : PageSizeFault}
    (hsettings : s.moduleSettings catalogModule = .ok settings) (haddress : s.Readable)
    (h : ¬ settings.Paged) (hfault : settings.pageSizeFault? = some fault) :
    FirstFault s ⟨["invalid metadata_catalog configuration", fault.message]⟩
  /-- The page sizes are, but the types are not, and of these the first one with a fault is
  reported. -/
  | types {settings : Settings} {position : Nat} {error : RegistryError}
    (hsettings : s.moduleSettings catalogModule = .ok settings) (haddress : s.Readable)
    (hpaged : settings.Paged) (h : ¬ settings.Named)
    (hfault : nameFault? settings.types position = some error)
    (hfirst : ∀ earlier < position, nameFault? settings.types earlier = none) :
    FirstFault s ⟨["invalid metadata_catalog type catalog", error.message]⟩

end ServerSettings

/-- What a command makes of a setup. -/
def Command.outcome : Command → Except Report Setup → RunResult
  | .run, .ok t => .serving t.address t.catalog
  | .check, .ok _ => .done ServerSettings.approval
  | _, .error report => .failed report

namespace ServerSettings

variable {s : ServerSettings} {settings : Settings} {t : Setup} {report : Report}

/-! ## One setup for both -/

/-- Checking makes what running makes and throws it away. -/
theorem check_eq_map_prepare (s : ServerSettings) (settings : Settings) :
    s.check settings = (s.prepare settings).map fun _ => approval := by
  rw [check, prepare]
  cases s.address with
  | error report => rfl
  | ok a => cases Catalog.init settings <;> rfl

/-- **A command comes to what it makes of the one setup.** -/
theorem perform_eq (s : ServerSettings) (command : Command) :
    s.perform command = command.outcome s.setup := by
  rw [perform, setup]
  cases s.moduleSettings catalogModule with
  | error report => cases command <;> rfl
  | ok settings =>
    have hbind : (Except.ok settings >>= s.prepare) = s.prepare settings := rfl
    simp only [hbind, check_eq_map_prepare]
    cases s.prepare settings <;> cases command <;> rfl

theorem perform_eq_failed_iff {command : Command} :
    s.perform command = .failed report ↔ s.setup = .error report := by
  rw [perform_eq]
  cases command <;> cases s.setup <;> simp [Command.outcome]

theorem perform_run_eq_serving_iff {a : SocketAddress} {c : Catalog} :
    s.perform .run = .serving a c ↔ s.setup = .ok ⟨a, c⟩ := by
  rw [perform_eq]
  rcases s.setup with report | ⟨a', c'⟩ <;> simp [Command.outcome]

theorem perform_check_eq_done_iff :
    s.perform .check = .done approval ↔ ∃ t, s.setup = .ok t := by
  rw [perform_eq]
  cases s.setup <;> simp [Command.outcome]

/-! ## The setup -/

theorem setup_eq_prepare (h : s.moduleSettings catalogModule = .ok settings) :
    s.setup = s.prepare settings := by
  rw [setup, h]
  rfl

theorem prepare_eq_ok_iff :
    s.prepare settings = .ok t ↔
      s.address = .ok t.address ∧ Catalog.init settings = .ok t.catalog := by
  rw [prepare, bind_eq_ok_iff]
  obtain ⟨a, c⟩ := t
  cases Catalog.init settings <;> simp [pure, Except.pure]

/-- The address is read before the catalog is made. -/
theorem prepare_eq_error_iff :
    s.prepare settings = .error report ↔
      s.address = .error report ∨
        s.Readable ∧ ∃ fault, Catalog.init settings = .error fault ∧ report = fault.report := by
  rw [prepare, ← exists_address_eq_ok_iff]
  cases s.address with
  | error report => simp [bind, Except.bind]
  | ok a => cases Catalog.init settings <;> simp [bind, Except.bind, pure, Except.pure, eq_comm]

theorem setup_eq_ok_iff :
    s.setup = .ok t ↔
      ∃ settings, s.moduleSettings catalogModule = .ok settings ∧ s.address = .ok t.address ∧
        Catalog.init settings = .ok t.catalog := by
  simp only [setup, bind_eq_ok_iff, prepare_eq_ok_iff]

/-- What is sound is set up. -/
theorem exists_setup_iff : (∃ t, s.setup = .ok t) ↔ s.Sound := by
  simp only [setup_eq_ok_iff, Sound, ← exists_address_eq_ok_iff, ← Catalog.exists_init_iff]
  constructor
  · rintro ⟨t, settings, hsettings, ha, hc⟩
    exact ⟨⟨_, ha⟩, settings, hsettings, _, hc⟩
  · rintro ⟨⟨a, ha⟩, settings, hsettings, c, hc⟩
    exact ⟨⟨a, c⟩, settings, hsettings, ha, hc⟩

theorem address_eq_error_iff :
    s.address = .error report ↔
      ¬ s.Readable ∧ report =
        ⟨[s!"invalid bind address '{s.listen.address}'", "invalid socket address syntax"]⟩ := by
  rw [← exists_address_eq_ok_iff, address]
  cases SocketAddress.ofText? s.listen.address <;>
    simp [Report.ofCause, Report.within, eq_comm]

/-- **What is not sound fails with the first fault.** -/
theorem setup_eq_error_iff : s.setup = .error report ↔ s.FirstFault report := by
  constructor
  · intro h
    -- Each step that fails has all steps before it behind it, and these are what is in order.
    cases hsettings : s.moduleSettings catalogModule with
    | error report' =>
      rw [setup, hsettings] at h
      cases h
      exact .undecoded hsettings
    | ok settings =>
      rw [setup_eq_prepare hsettings, prepare_eq_error_iff] at h
      obtain haddress | ⟨hread, fault, hinit, rfl⟩ := h
      · obtain ⟨hread, rfl⟩ := address_eq_error_iff.mp haddress
        exact .address hsettings hread
      · obtain ⟨fault, hfault, rfl⟩ | ⟨hpaged, error, hregistry, rfl⟩ :=
          Catalog.init_eq_error_iff.mp hinit
        · exact .pageSizes hsettings hread (Settings.not_paged_of_pageSizeFault? hfault) hfault
        · obtain ⟨position, hposition, hfirst⟩ := Settings.registry_eq_error_iff.mp hregistry
          exact .types hsettings hread hpaged (Settings.not_named_of_registry hregistry) hposition
            hfirst
  · intro h
    cases h with
    | undecoded h =>
      rw [setup, h]
      rfl
    | address hsettings h =>
      rw [setup_eq_prepare hsettings]
      exact prepare_eq_error_iff.mpr (.inl (address_eq_error_iff.mpr ⟨h, rfl⟩))
    | pageSizes hsettings hread _ hfault =>
      have hinit := Catalog.init_eq_error_iff.mpr (.inl ⟨_, hfault, rfl⟩)
      rw [setup_eq_prepare hsettings]
      exact prepare_eq_error_iff.mpr (.inr ⟨hread, _, hinit, rfl⟩)
    | types hsettings hread hpaged _ hposition hfirst =>
      have hregistry := Settings.registry_eq_error_iff.mpr ⟨_, hposition, hfirst⟩
      have hinit := Catalog.init_eq_error_iff.mpr (.inr ⟨hpaged, _, hregistry, rfl⟩)
      rw [setup_eq_prepare hsettings]
      exact prepare_eq_error_iff.mpr (.inr ⟨hread, _, hinit, rfl⟩)

/-- What is set up listens at the address of the settings and holds what they name. -/
theorem holds_of_setup (h : s.setup = .ok t) :
    SocketAddress.Spelled s.listen.address.toList t.address ∧
      ∃ settings, s.moduleSettings catalogModule = .ok settings ∧ t.catalog.Holds settings := by
  obtain ⟨settings, hsettings, ha, hc⟩ := setup_eq_ok_iff.mp h
  exact ⟨address_eq_ok_iff.mp ha, settings, hsettings, Catalog.holds_of_init hc⟩

/-- **Checking and running accept the same settings, and these are the sound ones.** What is not
sound fails with the first of its faults, and with the same one whatever the command is. What is
accepted listens at the address of the settings, and its catalog holds their types and entities. All
this is said of the settings that a run of the program has loaded and overridden. -/
theorem check_agrees_with_run (s : ServerSettings) :
    (s.perform .check = .done approval ↔ s.Sound) ∧
    ((∃ a c, s.perform .run = .serving a c) ↔ s.Sound) ∧
    (¬ s.Sound → ∃ report, s.FirstFault report ∧ ∀ command, s.perform command = .failed report) ∧
    (∀ command report, s.perform command = .failed report ↔ s.FirstFault report) ∧
    (∀ a c, s.perform .run = .serving a c →
      SocketAddress.Spelled s.listen.address.toList a ∧
        ∃ settings, s.moduleSettings catalogModule = .ok settings ∧ c.Holds settings) ∧
    (∀ (i : Invocation) (w : World), i.settings w = .ok s → i.printConfig = false →
      i.result w = s.perform i.command) := by
  refine ⟨?_, ?_, fun hsound => ?_, fun command report => ?_, fun a c h => ?_,
    fun i w hsettings hprint => ?_⟩
  · exact perform_check_eq_done_iff.trans exists_setup_iff
  · rw [← exists_setup_iff]
    simp only [perform_run_eq_serving_iff]
    exact ⟨fun ⟨a, c, h⟩ => ⟨⟨a, c⟩, h⟩, fun ⟨t, h⟩ => ⟨t.address, t.catalog, h⟩⟩
  · cases h : s.setup with
    | ok t => exact absurd (exists_setup_iff.mp ⟨t, h⟩) hsound
    | error report =>
      exact ⟨report, setup_eq_error_iff.mp h, fun command => perform_eq_failed_iff.mpr h⟩
  · exact perform_eq_failed_iff.trans setup_eq_error_iff
  · exact holds_of_setup (perform_run_eq_serving_iff.mp h)
  · rw [Invocation.result, hsettings]
    simp [hprint]

/-- Settings with two entities of one identifier and pages of three elements, if these are not too
large. -/
def seeded (address : String) (largest : Int) : ServerSettings where
  listen := ⟨address⟩
  logging := .default
  modules := (withModule catalogModule [
    ("entities", .arr [
      .obj [("guid", .str "a"), ("typeName", .str "RelationalTable")],
      .obj [("guid", .str "a"), ("typeName", .str "RelationalView")]]),
    ("default_page_size", .int 3),
    ("max_page_size", .int largest)]).modules

/-- A server that is told nothing passes the check. The second entity is served, and of two faults
the address is reported. -/
theorem faults_in_order :
    Invocation.result ⟨none, none, false, 0, .check⟩ ⟨fun _ => none, []⟩ = .done approval ∧
    (∃ a c, (seeded "[::1]:80" 4).perform .run = .serving a c ∧
      c.service.repository.fetch "a" = .ok (.new "a" "RelationalView")) ∧
    (∀ command, (seeded "localhost" 2).perform command =
      .failed ⟨["invalid bind address 'localhost'", "invalid socket address syntax"]⟩) ∧
    (∀ command, (seeded "[::1]:80" 2).perform command =
      .failed ⟨["invalid metadata_catalog configuration",
        "default_page_size (3) must not exceed max_page_size (2)"]⟩) := by
  refine ⟨?_, ?_, fun command => ?_, fun command => ?_⟩
  · obtain ⟨hcheck, -, -, -, -, hresult⟩ := check_agrees_with_run default
    rw [hresult ⟨none, none, false, 0, .check⟩ ⟨fun _ => none, []⟩ rfl rfl]
    exact hcheck.mpr
      ⟨exists_address_eq_ok_iff.mp ⟨_, rfl⟩, _, rfl, ⟨by decide, by decide⟩, .inl rfl⟩
  · obtain ⟨-, hrun, -, -, hholds, -⟩ := check_agrees_with_run (seeded "[::1]:80" 4)
    obtain ⟨a, c, h⟩ := hrun.mpr
      ⟨exists_address_eq_ok_iff.mp ⟨_, rfl⟩, _, rfl, ⟨by decide, by decide⟩, .inl rfl⟩
    refine ⟨a, c, h, ?_⟩
    obtain ⟨-, settings, hsettings, hc⟩ := hholds a c h
    -- The settings are known by evaluation, and with them the entities of the log.
    cases hsettings
    have hfetched := hc.fetched "a"
    generalize c.service.repository.fetch "a" = fetched at hfetched
    cases hfetched with
    | fetch hcurrent =>
      cases hcurrent
      rfl
    | miss hnone => cases hnone
  · obtain ⟨-, -, -, hfailed, -, -⟩ := check_agrees_with_run (seeded "localhost" 2)
    exact (hfailed _ _).mpr (.address rfl (not_readable_of_address_error rfl))
  · obtain ⟨-, -, -, hfailed, -, -⟩ := check_agrees_with_run (seeded "[::1]:80" 2)
    have hread : (seeded "[::1]:80" 2).Readable := exists_address_eq_ok_iff.mp ⟨_, rfl⟩
    exact (hfailed _ _).mpr
      (@FirstFault.pageSizes _ _ (.defaultAboveMax 3 2) rfl hread (by decide) rfl)

end ServerSettings

end RelationalCatalog
