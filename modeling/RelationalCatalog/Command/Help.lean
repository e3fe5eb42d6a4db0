/-!
# Commands and their help

The server is run or its settings are checked. Each command has a help text, and so has the
program as a whole.
-/

namespace RelationalCatalog

/-- What the program is told to do. -/
inductive Command
  /-- Start the server. -/
  | run
  /-- Validate the settings. -/
  | check
deriving DecidableEq

namespace Command

/-- The name of a command. -/
def name : Command → String
  | .run => "run"
  | .check => "check"

/-- The command of a name. -/
def ofName? (name : String) : Option Command :=
  if name = "run" then some .run else if name = "check" then some .check else none

/-- What a command does. -/
def summary : Command → String
  | .run => "Start the server"
  | .check => "Validate configuration and exit"

end Command

/-- The name of the program. -/
def programName : String := "metadata-server"

/-- The version of the program. -/
def programVersion : String := "0.1.0"

/-- What there is help about. -/
inductive HelpTopic
  /-- The program. -/
  | program
  /-- A command. -/
  | command (c : Command)
  /-- Help itself. -/
  | help
deriving DecidableEq

/-- What the command for help does. -/
def helpSummary : String := "Print this message or the help of the given subcommand(s)"

/-- Lines, each with its end. -/
def unlines (lines : List String) : String := String.join (lines.map (· ++ "\n"))

/-- The text of the help about a topic. -/
def HelpTopic.text : HelpTopic → String
  | .program => unlines [
    "Metadata catalog server: typed relational metadata over REST",
    "",
    s!"Usage: {programName} [OPTIONS] [COMMAND]",
    "",
    "Commands:",
    "  run    " ++ Command.run.summary,
    "  check  " ++ Command.check.summary,
    "  help   " ++ helpSummary,
    "",
    "Options:",
    "  -c, --config <CONFIG>  Path to configuration file",
    "  -p, --port <PORT>      Port override for HTTP server (overrides config)",
    "      --print-config     Print effective configuration (YAML) and exit",
    "  -v, --verbose...       Log verbosity level (-v info, -vv debug, -vvv trace)",
    "  -h, --help             Print help",
    "  -V, --version          Print version"]
  | .command c => unlines [
    c.summary,
    "",
    s!"Usage: {programName} {c.name}",
    "",
    "Options:",
    "  -h, --help  Print help"]
  | .help => unlines [
    helpSummary,
    "",
    s!"Usage: {programName} help [COMMAND]...",
    "",
    "Arguments:",
    "  [COMMAND]...  Print help for the subcommand(s)"]

/-- The text of the version. -/
def versionText : String := unlines [s!"{programName} {programVersion}"]

end RelationalCatalog
