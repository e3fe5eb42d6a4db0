import RelationalCatalog.Command.Run

/-!
# The program

Reads the arguments, the environment and the file of settings, and prints what the run comes to.
-/

namespace RelationalCatalog

/-- The text of the file that is named as the file of settings, if there is one. -/
def readSettingsFile (arguments : List String) : IO (Option (String × String)) := do
  match Invocation.ofArguments arguments with
  | .ok i =>
    match i.config with
    | none => return none
    | some path =>
      try
        return some (path, ← IO.FS.readFile path)
      catch _ => return none
  | .error _ => return none

/-- A variable of the environment in the form in which the system lists it. -/
def variableOfLine (line : String) : Option (String × String) :=
  match splitAtFirst '=' line.toList with
  | (name, some value) => some (String.ofList name, String.ofList value)
  | (_, none) => none

/-- The variables of the environment, as far as the system lists them. -/
def readVariables : IO (List (String × String)) := do
  try
    let text ← IO.FS.readFile "/proc/self/environ"
    return (splitAll '\x00' text.toList).filterMap (fun line => variableOfLine (String.ofList line))
  catch _ => return []

/-- What becomes of a result where no server can listen. -/
def withoutListener : RunResult → RunResult
  | .serving address _ =>
    .failed ((Report.ofCause "no listener is available").within
      s!"failed to bind {address.render}")
  | result => result

/-- Runs the program and gives its exit code. -/
def runMain (arguments : List String) : IO UInt32 := do
  let file ← readSettingsFile arguments
  let environment ← readVariables
  let world : World := {
    file? := fun path => file.bind (fun f => if f.1 = path then some f.2 else none)
    environment := environment }
  let result := withoutListener (runProgram arguments world)
  IO.print result.output
  match result.report? with
  | some text => IO.eprintln text
  | none => pure ()
  return result.exitCode.toUInt32

end RelationalCatalog

/-- The program. -/
def main (arguments : List String) : IO UInt32 := RelationalCatalog.runMain arguments
