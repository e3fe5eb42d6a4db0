import RelationalCatalog.Server.Environment
import RelationalCatalog.Server.Settings
import RelationalCatalog.Yaml.Reader

/-!
# Layers of settings

The settings of the server come in layers: its own defaults, a file, and the variables of the
environment. A layer that is put above others adds its members to theirs, in maps of maps, and
everywhere else it replaces what is below.
-/

namespace RelationalCatalog

namespace Json

mutual

/-- A value below with one above it. -/
def overlay (below : Json) : (above : Json) → Json
  | .obj members =>
    match below with
    | .obj bound => .obj (overlayMembers bound members)
    | _ => .obj (overlayMembers [] members)
  | v => v

/-- Members, in the order of their names, with others above them. -/
def overlayMembers (bound : List (String × Json)) : List (String × Json) → List (String × Json)
  | [] => bound
  | (n, v) :: rest =>
    let under := (lookupEntry n bound).getD .null
    overlayMembers (insertEntry n (overlay under v) bound) rest

end

end Json

/-- What surrounds the program. -/
structure World where
  /-- The text of a file, if there is a file of that path. -/
  file? : (path : String) → Option String
  /-- The variables of the environment, in their order. -/
  environment : List (String × String)

namespace ServerSettings

/-- The layers of the environment's variables, the lowest first. -/
def environmentLayers (environment : List (String × String)) : List Json :=
  environment.filterMap (fun v => Environment.settings? v.1 v.2)

/-- The settings of layers above the defaults. -/
def ofLayers (layers : List Json) : Decoded ServerSettings :=
  decode ((layers.foldl Json.overlay (Json.overlay .null default.toJson)).toDraft .uncounted)

/-- Why settings are not loaded. -/
def loadReport : Report := .ofCause "failed to load configuration (yaml/env)"

/-- Loads the settings: the defaults, the text of a file if there is one, and the variables of
the environment. -/
def load (file : Option String) (environment : List (String × String)) :
    Except Report ServerSettings :=
  let fileLayers : Option (List Json) :=
    match file with
    | none => some []
    | some text => (Yaml.ofText? text).map (fun v => [v])
  match fileLayers with
  | none => .error loadReport
  | some layers =>
    match ofLayers (layers ++ environmentLayers environment) with
    | .ok settings => .ok settings
    | .error _ => .error loadReport

end ServerSettings

end RelationalCatalog
