import RelationalCatalog.Command.Arguments
import RelationalCatalog.Server.Layers
import RelationalCatalog.Server.Router
import RelationalCatalog.Yaml.Printer

/-!
# Runs of the program

What a run comes to is a function of the arguments and of what surrounds the program. The steps
have a fixed order, and the first one that fails is reported: the arguments are read, then the
settings are loaded and overridden; printing them ends the run. Then the settings of the catalog
are read. Checking the settings and running the server each go on for themselves: both read the
address and then set the catalog up.
-/

namespace RelationalCatalog

/-- What a run comes to. -/
inductive RunResult
  /-- It is done and has printed a text. -/
  | done (output : String)
  /-- The server is to listen. -/
  | serving (address : SocketAddress) (catalog : Catalog)
  /-- It failed. -/
  | failed (report : Report)
  /-- The arguments were not accepted. -/
  | misused (fault : UsageFault)

namespace RunResult

/-- The exit code of a run that has ended. -/
def exitCode : RunResult → UInt8
  | .done _ => 0
  | .serving _ _ => 0
  | .failed _ => 1
  | .misused _ => 2

/-- What a run prints. -/
def output : RunResult → String
  | .done output => output
  | _ => ""

/-- What a run reports, if it fails. -/
def report? : RunResult → Option String
  | .failed report => some report.text
  | .misused fault => some ("error: " ++ fault.message)
  | _ => none

end RunResult

/-- What the program needs to serve: an address and a catalog. -/
structure Setup where
  /-- The address to listen at. -/
  address : SocketAddress
  /-- The catalog. -/
  catalog : Catalog

/-- The name of the catalog's module. -/
def catalogModule : String := "metadata_catalog"

namespace ServerSettings

/-- What is printed of settings that are sound. -/
def approval : String := "Configuration is valid\n"

/-- Checks the settings. Address and catalog are made, but not used. -/
def check (s : ServerSettings) (settings : Settings) : Except Report String := do
  let _ ← s.address
  match Catalog.init settings with
  | .ok _ => return approval
  | .error fault => .error fault.report

/-- Makes what the server needs to listen. -/
def prepare (s : ServerSettings) (settings : Settings) : Except Report Setup := do
  let address ← s.address
  match Catalog.init settings with
  | .ok catalog => return ⟨address, catalog⟩
  | .error fault => .error fault.report

/-- What a command comes to with the settings, from those of the catalog on. -/
def perform (s : ServerSettings) (c : Command) : RunResult :=
  match s.moduleSettings catalogModule with
  | .error report => .failed report
  | .ok settings =>
    match c with
    | .run =>
      match s.prepare settings with
      | .ok setup => .serving setup.address setup.catalog
      | .error report => .failed report
    | .check =>
      match s.check settings with
      | .ok output => .done output
      | .error report => .failed report

/-- The settings as they are printed. -/
def toYaml (s : ServerSettings) : String := Yaml.render s.toJson

end ServerSettings

namespace Invocation

/-- The text of the file of settings, if there is to be one. -/
def settingsFile (i : Invocation) (w : World) : Except Report (Option String) :=
  match i.config with
  | none => .ok none
  | some path =>
    match w.file? path with
    | some text => .ok (some text)
    | none => .error (Report.ofCause s!"config file does not exist: {path}")

/-- The settings of a run. -/
def settings (i : Invocation) (w : World) : Except Report ServerSettings := do
  let file ← i.settingsFile w
  let s ← ServerSettings.load file w.environment
  s.override ⟨i.port, i.verbosity⟩

/-- What an invocation comes to. -/
def result (i : Invocation) (w : World) : RunResult :=
  match i.settings w with
  | .error report => .failed report
  | .ok s =>
    if i.printConfig then .done (s.toYaml ++ "\n") else s.perform i.command

end Invocation

/-- What a run with the listed arguments comes to. -/
def runProgram (arguments : List String) (w : World) : RunResult :=
  match Invocation.ofArguments arguments with
  | .ok i => i.result w
  | .error (.help topic) => .done topic.text
  | .error .version => .done versionText
  | .error (.fault fault) => .misused fault

end RelationalCatalog
