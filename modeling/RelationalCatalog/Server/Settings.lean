import RelationalCatalog.Address.Socket
import RelationalCatalog.Catalog.Settings
import RelationalCatalog.Error
import RelationalCatalog.Json.Text

/-!
# Settings of the server

The server is told the address that it listens at, what it logs and how, and the settings of its
modules, of which the catalog is one. The settings of a module are kept as they are written;
they are read when the module is set up, so a module that is not there does no harm.

The command line can override the port and the level of the log. Overriding is all or nothing:
the port of an address that cannot be read cannot be changed, and then the level stays as it is.
-/

namespace RelationalCatalog

/-- The forms of the log. -/
inductive LogFormat
  | text
  | json
deriving DecidableEq

namespace LogFormat

/-- The name of a form. -/
def name : LogFormat → String
  | .text => "text"
  | .json => "json"

/-- The form of a name. -/
def ofName (name : String) : Decoded LogFormat :=
  match name with
  | "text" => .ok .text
  | "json" => .ok .json
  | _ => .error (.mismatch (.unknownVariant name ["text", "json"]))

/-- Decodes a form: its name, or a map from its name to nothing. -/
def decode : Draft → Decoded LogFormat
  | .str s => ofName s
  | .obj ((n, d) :: rest) e =>
    if rest.isEmpty ∨ e = .uncounted then do
      let form ← ofName n
      Decode.unit d
      return form
    else .error (.mismatch (.invalidValue .map "map with a single key"))
  | .obj [] _ => .error (.mismatch (.invalidValue .map "map with a single key"))
  | d => .error (Decode.unexpected "string or map" d)

end LogFormat

/-- What the log holds and how it looks. -/
structure LoggingSettings where
  /-- Which messages are logged. -/
  level : String
  /-- The form of the messages. -/
  format : LogFormat
deriving DecidableEq

namespace LoggingSettings

/-- The log of a server that is told nothing. -/
def default : LoggingSettings := ⟨"info", .text⟩

instance : Inhabited LoggingSettings := ⟨default⟩

/-- The fields of the settings. -/
inductive Field
  | level
  | format
deriving DecidableEq

/-- The form of the settings in JSON. -/
def layout : Layout where
  title := "LoggingConfig"
  Field := Field
  fields := [.level, .format]
  label
    | .level => "level"
    | .format => "format"
  Value
    | .level => String
    | .format => LogFormat
  decode
    | .level => Decode.text
    | .format => LogFormat.decode
  absence
    | .level => .anywhere default.level
    | .format => .anywhere default.format
  unlisted := .refused
  positional := true

/-- Decodes the settings. -/
def decode (d : Draft) : Decoded LoggingSettings := do
  let r ← layout.read d
  return { level := ← r.take Field.level, format := ← r.take Field.format }

/-- The settings as JSON. -/
def toJson (s : LoggingSettings) : Json :=
  .obj [("level", .str s.level), ("format", .str s.format.name)]

end LoggingSettings

/-- Where the server listens. -/
structure ListenSettings where
  /-- The text of the socket address. -/
  address : String
deriving DecidableEq

namespace ListenSettings

/-- The address of a server that is told none. -/
def default : ListenSettings := ⟨"127.0.0.1:8087"⟩

instance : Inhabited ListenSettings := ⟨default⟩

/-- The form of the settings in JSON: their only field is the address. -/
def layout : Layout where
  title := "ServerConfig"
  Field := Unit
  fields := [()]
  label _ := "bind_addr"
  Value _ := String
  decode _ := Decode.text
  absence _ := .anywhere default.address
  unlisted := .refused
  positional := true

/-- Decodes the settings. -/
def decode (d : Draft) : Decoded ListenSettings := do
  let r ← layout.read d
  return ⟨← r.take ()⟩

/-- The settings as JSON. -/
def toJson (s : ListenSettings) : Json := .obj [("bind_addr", .str s.address)]

end ListenSettings

/-- The settings of the server and its modules. -/
structure ServerSettings where
  /-- Where the server listens. -/
  listen : ListenSettings
  /-- What it logs. -/
  logging : LoggingSettings
  /-- The settings of the modules by their names. -/
  modules : SortedMap Json

/-- What the command line overrides. -/
structure Overrides where
  /-- The port to listen at. -/
  port : Option UInt16
  /-- How often more messages were asked for. -/
  verbosity : Nat
deriving DecidableEq

namespace ServerSettings

/-- The settings of a server that is told nothing. -/
def default : ServerSettings := ⟨.default, .default, .empty⟩

instance : Inhabited ServerSettings := ⟨default⟩

/-- The fields of the settings. -/
inductive Field
  | listen
  | logging
  | modules
deriving DecidableEq

/-- The form of the settings in JSON. -/
def layout : Layout where
  title := "AppConfig"
  Field := Field
  fields := [.listen, .logging, .modules]
  label
    | .listen => "server"
    | .logging => "logging"
    | .modules => "modules"
  Value
    | .listen => ListenSettings
    | .logging => LoggingSettings
    | .modules => SortedMap Json
  decode
    | .listen => ListenSettings.decode
    | .logging => LoggingSettings.decode
    | .modules => fun d => (Decode.map Decode.anything d).map SortedMap.ofList
  absence
    | .listen => .anywhere default.listen
    | .logging => .anywhere default.logging
    | .modules => .anywhere default.modules
  unlisted := .refused
  positional := true

/-- Decodes the settings. -/
def decode (d : Draft) : Decoded ServerSettings := do
  let r ← layout.read d
  return {
    listen := ← r.take Field.listen
    logging := ← r.take Field.logging
    modules := ← r.take Field.modules }

/-- The settings as JSON. -/
def toJson (s : ServerSettings) : Json :=
  .obj [("server", s.listen.toJson), ("logging", s.logging.toJson),
    ("modules", .obj s.modules.entries)]

/-! ## The address -/

/-- The address to listen at. -/
def address (s : ServerSettings) : Except Report SocketAddress :=
  match SocketAddress.ofText? s.listen.address with
  | some a => .ok a
  | none => .error ((Report.ofCause "invalid socket address syntax").within
      s!"invalid bind address '{s.listen.address}'")

/-- The settings with another address. -/
def withAddress (s : ServerSettings) (a : SocketAddress) : ServerSettings :=
  { s with listen := ⟨a.render⟩ }

/-! ## The command line -/

/-- A change of the settings in place. One that fails leaves what was changed before it failed. -/
abbrev Change := EStateM Report ServerSettings

/-- Changes the port of the address, if one is given. -/
def changePort : Option UInt16 → Change Unit
  | none => return
  | some port => do
    let a ← MonadExcept.ofExcept (← get).address
    modify (·.withAddress (a.withPort port))

/-- The level of the log that is asked for, if one is. -/
def levelOfVerbosity? : Nat → Option String
  | 0 => none
  | 1 => some "info"
  | 2 => some "debug"
  | _ => some "trace"

/-- The settings with another level of the log. -/
def withLevel (s : ServerSettings) (level : String) : ServerSettings :=
  { s with logging := { s.logging with level := level } }

/-- Changes the level of the log, if one is asked for. -/
def changeLevel (verbosity : Nat) : Change Unit :=
  match levelOfVerbosity? verbosity with
  | none => return
  | some level => modify (·.withLevel level)

/-- Makes the changes that the command line asks for. -/
def applyOverrides (o : Overrides) : Change Unit := do
  changePort o.port
  changeLevel o.verbosity

/-- The settings after the command line. -/
def override (s : ServerSettings) (o : Overrides) : Except Report ServerSettings :=
  match (applyOverrides o).run s with
  | .ok () s' => .ok s'
  | .error report _ => .error report

/-! ## Modules -/

/-- The settings that are written for a module, if there are any. -/
def written? (s : ServerSettings) (name : String) : Option Json :=
  (s.modules.get? name).bind (·.member? "config")

/-- The catalog's settings that are written for a module; without any they are the defaults. -/
def moduleSettings (s : ServerSettings) (name : String) : Except Report Settings :=
  match s.written? name with
  | none => .ok Settings.default
  | some v =>
    match decodeValue Settings.decode v with
    | .ok settings => .ok settings
    | .error e =>
      .error ((Report.ofCause e.message).within s!"invalid config for module '{name}'")

end ServerSettings

end RelationalCatalog
