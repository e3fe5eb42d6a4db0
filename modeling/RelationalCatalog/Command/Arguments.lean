import RelationalCatalog.Command.Help
import RelationalCatalog.Number.Integer
import RelationalCatalog.Text.Percent

/-!
# Arguments of the program

The arguments are options and at most one command, which comes last. Options that take a value
have it behind an equals sign or as the next argument; short options without a value can be
written together. Each option but the one for verbosity may be given once.

A value that is an argument of its own is examined only when the next option or the end comes.
Therefore an argument that is not known is reported before a value that is not valid, while a
value behind an equals sign is examined at once.
-/

namespace RelationalCatalog

/-- Options that take a value. -/
inductive ValueOption
  | config
  | port
deriving DecidableEq

/-- Options that take no value. -/
inductive Switch
  | printConfig
  | verbose
  | help
  | version
deriving DecidableEq

/-- An option as messages show it. -/
def ValueOption.label : ValueOption → String
  | .config => "--config <CONFIG>"
  | .port => "--port <PORT>"

/-- An option as messages show it. -/
def Switch.label : Switch → String
  | .printConfig => "--print-config"
  | .verbose => "--verbose..."
  | .help => "--help"
  | .version => "--version"

/-- An option of the program. -/
inductive ProgramOption
  | valued (o : ValueOption)
  | switch (s : Switch)
deriving DecidableEq

/-- The option of a long name. -/
def ProgramOption.ofName? (name : String) : Option ProgramOption :=
  match name with
  | "config" => some (.valued .config)
  | "port" => some (.valued .port)
  | "print-config" => some (.switch .printConfig)
  | "verbose" => some (.switch .verbose)
  | "help" => some (.switch .help)
  | "version" => some (.switch .version)
  | _ => none

/-- The option of a letter. -/
def ProgramOption.ofLetter? (c : Char) : Option ProgramOption :=
  match c with
  | 'c' => some (.valued .config)
  | 'p' => some (.valued .port)
  | 'v' => some (.switch .verbose)
  | 'h' => some (.switch .help)
  | 'V' => some (.switch .version)
  | _ => none

/-- Why arguments are not accepted. -/
inductive UsageFault
  /-- There is no such command. -/
  | unknownCommand (name : String)
  /-- There is no such option, or nothing can stand here. -/
  | unexpected (argument : String)
  /-- An option takes no value. -/
  | valueNotTaken (value : String) (option : Switch)
  /-- An option needs a value. -/
  | valueMissing (option : ValueOption)
  /-- A value is not of its type. -/
  | valueInvalid (value : String) (option : ValueOption) (reason : String)
  /-- An option is there twice. -/
  | repeated (label : String)
deriving DecidableEq

/-- The wording of a fault. -/
def UsageFault.message : UsageFault → String
  | .unknownCommand name => s!"unrecognized subcommand '{name}'"
  | .unexpected argument => s!"unexpected argument '{argument}' found"
  | .valueNotTaken value option =>
    s!"unexpected value '{value}' for '{option.label}' found; no more were expected"
  | .valueMissing option => s!"a value is required for '{option.label}' but none was supplied"
  | .valueInvalid value option reason =>
    s!"invalid value '{value}' for '{option.label}': {reason}"
  | .repeated label => s!"the argument '{label}' cannot be used multiple times"

/-- What the arguments ask for. -/
structure Invocation where
  /-- The path of the file of settings. -/
  config : Option String
  /-- The port to listen at. -/
  port : Option UInt16
  /-- Whether to print the settings. -/
  printConfig : Bool
  /-- How often more messages were asked for. -/
  verbosity : Nat
  /-- What to do. -/
  command : Command
deriving DecidableEq

/-- An invocation without arguments. -/
def Invocation.plain : Invocation := ⟨none, none, false, 0, .run⟩

/-- What ends the reading of the arguments before their end. -/
inductive Halt
  /-- Help is asked for. -/
  | help (topic : HelpTopic)
  /-- The version is asked for. -/
  | version
  /-- The arguments are not accepted. -/
  | fault (f : UsageFault)
deriving DecidableEq

/-- A value that was not examined yet, or an option that waits for one. -/
structure Pending where
  /-- The option. -/
  option : ValueOption
  /-- The value, if there is one. -/
  value : Option String

/-- What is known from the arguments read so far. -/
structure ArgumentState where
  /-- What they ask for. -/
  invocation : Invocation
  /-- What is still to be examined. -/
  pending : Option Pending

namespace ArgumentState

/-- The state in front of the first argument. -/
def start : ArgumentState := ⟨.plain, none⟩

/-- Whether an option waits for its value. -/
def isWaiting (s : ArgumentState) : Bool :=
  match s.pending with
  | some ⟨_, none⟩ => true
  | _ => false

end ArgumentState

/-- The port that a value spells. -/
def readPort (value : String) : Except String UInt16 :=
  match readInt64 value with
  | .error fault => .error fault.message
  | .ok n =>
    if 0 ≤ n.toInt ∧ n.toInt ≤ 0xffff then .ok (UInt16.ofNat n.toInt.toNat)
    else .error s!"{intText n.toInt} is not in 0..=65535"

namespace Invocation

/-- Takes the value of an option. -/
def withValue (i : Invocation) (o : ValueOption) (value : String) : Except Halt Invocation :=
  match o with
  | .config =>
    if i.config.isSome then .error (.fault (.repeated o.label))
    else if value.isEmpty then .error (.fault (.valueMissing o))
    else .ok { i with config := some value }
  | .port =>
    if i.port.isSome then .error (.fault (.repeated o.label))
    else
      match readPort value with
      | .ok port => .ok { i with port := some port }
      | .error reason => .error (.fault (.valueInvalid value o reason))

/-- Takes an option without a value. -/
def withSwitch (i : Invocation) : Switch → Except Halt Invocation
  | .printConfig =>
    if i.printConfig then .error (.fault (.repeated Switch.printConfig.label))
    else .ok { i with printConfig := true }
  | .verbose => .ok { i with verbosity := min (i.verbosity + 1) 255 }
  | .help => .error (.help .program)
  | .version => .error .version

end Invocation

namespace ArgumentState

/-- Examines the value that was not examined yet. -/
def settle (s : ArgumentState) : Except Halt Invocation :=
  match s.pending with
  | none => .ok s.invocation
  | some ⟨o, none⟩ => .error (.fault (.valueMissing o))
  | some ⟨o, some value⟩ => s.invocation.withValue o value

/-- Takes an option without a value. -/
def switch (s : ArgumentState) (o : Switch) : Except Halt ArgumentState := do
  let i ← s.settle
  return ⟨← i.withSwitch o, none⟩

/-- Takes an option with the value behind its name, or has it wait for one. -/
def valued (s : ArgumentState) (o : ValueOption) (value : Option String) :
    Except Halt ArgumentState := do
  let i ← s.settle
  match value with
  | some value => return ⟨← i.withValue o value, none⟩
  | none => return ⟨i, some ⟨o, none⟩⟩

/-- Takes the letters of short options. Behind an option with a value the rest is the value. -/
def letters (s : ArgumentState) : List Char → Except Halt ArgumentState
  | [] => .ok s
  | c :: rest =>
    match ProgramOption.ofLetter? c with
    | none => .error (.fault (.unexpected (String.ofList ['-', c])))
    | some (.switch o) => do
      let s ← s.switch o
      letters s rest
    | some (.valued o) =>
      match rest with
      | [] => s.valued o none
      | '=' :: value => s.valued o (some (String.ofList value))
      | value => s.valued o (some (String.ofList value))

/-- Takes a long option, with the value behind its equals sign. -/
def long (s : ArgumentState) (name : String) (value : Option String) :
    Except Halt ArgumentState :=
  match ProgramOption.ofName? name, value with
  | none, _ => .error (.fault (.unexpected ("--" ++ name)))
  | some (.valued o), value => s.valued o value
  | some (.switch o), some value => .error (.fault (.valueNotTaken value o))
  | some (.switch o), none => s.switch o

end ArgumentState

/-- The kinds of arguments that can be told by how they begin. -/
inductive ArgumentForm
  /-- Two hyphens alone: no options follow. -/
  | terminator
  /-- A long option with or without a value. -/
  | long (name : String) (value : Option String)
  /-- Letters of short options. -/
  | letters (cs : List Char)
  /-- Anything else. -/
  | word
deriving DecidableEq

/-- The form of an argument. -/
def ArgumentForm.ofText (argument : String) : ArgumentForm :=
  match argument.toList with
  | ['-', '-'] => .terminator
  | '-' :: '-' :: cs =>
    let (name, value) := splitAtFirst '=' cs
    .long (String.ofList name) (value.map String.ofList)
  | '-' :: c :: cs => .letters (c :: cs)
  | _ => .word

/-- Whether a word is the name of a command, help included. -/
def isCommandName (word : String) : Bool := (Command.ofName? word).isSome || word == "help"

/-- What the arguments behind the command for help ask for. -/
def helpHalt : List String → Halt
  | [] => .help .program
  | [word] =>
    match Command.ofName? word with
    | some c => .help (.command c)
    | none => if word = "help" then .help .help else .fault (.unknownCommand word)
  | word :: next :: _ =>
    if isCommandName word then .fault (.unknownCommand next) else .fault (.unknownCommand word)

/-- What the arguments behind a command ask for, if they end the reading: commands have no
options but the one for help. -/
def commandHalt? (c : Command) : List String → Option Halt
  | [] => none
  | argument :: rest =>
    match ArgumentForm.ofText argument with
    | .terminator => rest.head?.map (fun next => .fault (.unexpected next))
    | .long name value =>
      if name = "help" then
        match value with
        | some value => some (.fault (.valueNotTaken value .help))
        | none => some (.help (.command c))
      else some (.fault (.unexpected ("--" ++ name)))
    | .letters [] => some (.fault (.unexpected argument))
    | .letters (letter :: _) =>
      if letter = 'h' then some (.help (.command c))
      else some (.fault (.unexpected (String.ofList ['-', letter])))
    | .word => some (.fault (.unexpected argument))

/-- What an argument behind the mark that no options follow is reported as. -/
def surplusFault (argument : String) : UsageFault :=
  if isCommandName argument then .unexpected argument else .unknownCommand argument

namespace ArgumentState

/-- Reads the arguments behind those already read. -/
def read (s : ArgumentState) : List String → Except Halt Invocation
  | [] => s.settle
  | argument :: rest =>
    if !s.isWaiting && argument == "help" then .error (helpHalt rest)
    else
      match if s.isWaiting then none else Command.ofName? argument with
      | some c =>
        match commandHalt? c rest with
        | some halt => .error halt
        | none => do
          let i ← s.settle
          return { i with command := c }
      | none =>
        match ArgumentForm.ofText argument with
        | .terminator =>
          match rest with
          | [] => s.settle
          | next :: _ => .error (.fault (surplusFault next))
        | .long name value => do
          let s ← s.long name value
          read s rest
        | .letters cs => do
          let s ← s.letters cs
          read s rest
        | .word =>
          match s.pending with
          | some ⟨o, none⟩ => read { s with pending := some ⟨o, some argument⟩ } rest
          | _ => .error (.fault (.unknownCommand argument))

end ArgumentState

/-- What the arguments of the program ask for. -/
def Invocation.ofArguments (arguments : List String) : Except Halt Invocation :=
  ArgumentState.start.read arguments

end RelationalCatalog
