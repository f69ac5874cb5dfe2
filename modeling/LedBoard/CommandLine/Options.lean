import LedBoard.Host.Event

/-!
# Arguments

The program takes three options, which say where the settings are, how much is logged and where
to, and a command: `run` runs a program, and without a command the console starts. The options
stand before or after the command; after it they outweigh those before it. On either side each
stands once at most, with its value as the next argument or behind an equals sign.

Arguments are read from left to right, and the first that does not fit is an error, except that
asking for help or for the version ends the reading at once.

* `Request.ofArgs?`: what the arguments ask for.
-/

namespace LedBoard.CommandLine

/-- What help can be about. -/
inductive Topic
  | program
  | run
  | help
  deriving DecidableEq, Repr

/-- What the program is to do. -/
inductive Command
  | console
  /-- Runs a program, with a snapshot of the board from a file. -/
  | run (program : String) (snapshot : Option String)
  deriving DecidableEq, Repr

/-- The options that every command has. -/
structure Options where
  /-- The file of the settings. -/
  config : Option String := none
  /-- The least grave level that is logged. -/
  logLevel : Option LogLevel := none
  logFile : String := "wingbit.log"
  deriving DecidableEq, Repr

/-- What the arguments ask for. -/
inductive Request
  | help (topic : Topic)
  | version
  | perform (options : Options) (command : Command)
  deriving DecidableEq, Repr

/-! ## Options -/

/-- The level of a name of either case; `off` is none. -/
def levelOfName? (name : String) : Option (Option LogLevel) :=
  let name := name.toUpper
  if name = "OFF" then some none
  else ([.error, .warn, .info, .debug, .trace].find? fun l : LogLevel => l.name = name).map some

/-- The options that take a value. -/
inductive OptionName
  | config
  | logLevel
  | logFile
  | snapshot
  deriving DecidableEq, Repr

/-- What was given so far on one side of the command. -/
structure Given where
  config : Option String := none
  logLevel : Option (Option LogLevel) := none
  logFile : Option String := none
  snapshot : Option String := none
  /-- The file of the program. -/
  program : Option String := none

namespace Given

/-- Takes a value that was not given before. -/
def once {α : Type} (old : Option α) (new : Option α) : Option (Option α) :=
  match old, new with
  | none, some a => some (some a)
  | _, _ => none

/-- A path, which is not empty. -/
def path? (s : String) : Option String := if s.isEmpty then none else some s

/-- Takes the value of an option. -/
def put (g : Given) (name : OptionName) (value : String) : Option Given :=
  match name with
  | .config => (once g.config (path? value)).map fun config => { g with config }
  | .logLevel => (once g.logLevel (levelOfName? value)).map fun logLevel => { g with logLevel }
  | .logFile => (once g.logFile (some value)).map fun logFile => { g with logFile }
  | .snapshot => (once g.snapshot (path? value)).map fun snapshot => { g with snapshot }

/-- Takes the file of the program. -/
def putProgram (g : Given) (value : String) : Option Given :=
  (once g.program (path? value)).map fun program => { g with program }

/-- The options of both sides. -/
def options (before after : Given) : Options where
  config := after.config <|> before.config
  logLevel := (after.logLevel <|> before.logLevel).join
  logFile := (after.logFile <|> before.logFile).getD "wingbit.log"

end Given

/-! ## Arguments -/

/-- Where an argument stands. -/
inductive Side
  | beforeCommand
  | afterRun
  deriving DecidableEq, Repr

/-- What an argument is, taken by itself. -/
inductive Argument
  | help
  | version
  /-- An option; its value is here or in the next argument. -/
  | option (name : OptionName) (value : Option String)
  /-- Every further argument is a word. -/
  | wordsOnly
  | word
  | unknown
  deriving DecidableEq, Repr

/-- An option of a long name. -/
def longOption (side : Side) (name : String) (value : Option String) : Argument :=
  match name, value, side with
  | "help", none, _ => .help
  | "version", none, .beforeCommand => .version
  | "config", value, _ => .option .config value
  | "log-level", value, _ => .option .logLevel value
  | "log-file", value, _ => .option .logFile value
  | "state", value, .afterRun => .option .snapshot value
  | _, _, _ => .unknown

/-- An option of one letter; the value may follow the letter, or an equals sign behind it. -/
def shortOption (side : Side) (letter : Char) (rest : List Char) : Argument :=
  match letter, side with
  | 'h', _ => .help
  | 'V', .beforeCommand => .version
  | 's', .afterRun => .option .snapshot (match rest with
      | [] => none
      | '=' :: value => some (String.ofList value)
      | value => some (String.ofList value))
  | _, _ => .unknown

/-- What an argument is. -/
def classify (side : Side) (arg : String) : Argument :=
  match arg.toList with
  | ['-', '-'] => .wordsOnly
  | '-' :: '-' :: cs =>
    let value := match cs.dropWhile (· != '=') with
      | _ :: v => some (String.ofList v)
      | [] => none
    longOption side (String.ofList (cs.takeWhile (· != '='))) value
  | '-' :: c :: cs => shortOption side c cs
  | _ => .word

/-- The argument can be the value of the option before it. -/
def isValue (arg : String) : Bool :=
  match arg.toList with
  | '-' :: _ :: _ => false
  | _ => true

/-- What asking for help about something asks for. -/
def helpFor : List String → Option Request
  | [] => some (.help .program)
  | ["run"] => some (.help .run)
  | ["help"] => some (.help .help)
  | _ => none

/-- What the arguments after `run` ask for that are words only. -/
def readWords (before : Given) : Given → List String → Option Request
  | g, [] => g.program.map fun program => .perform (before.options g) (.run program g.snapshot)
  | g, word :: rest => do readWords before (← g.putProgram word) rest

/-- Reads the arguments after `run`. -/
def readRun (before : Given) : Given → List String → Option Request
  | g, [] => readWords before g []
  | g, arg :: rest =>
    match classify .afterRun arg with
    | .help => some (.help .run)
    | .option name (some value) => do readRun before (← g.put name value) rest
    | .option name none =>
      match rest with
      | value :: rest => do
        if isValue value then readRun before (← g.put name value) rest else none
      | [] => none
    | .wordsOnly => readWords before g rest
    | .word => do readRun before (← g.putProgram arg) rest
    | .version | .unknown => none

/-- Reads the arguments before a command, and the command. -/
def readProgram : Given → List String → Option Request
  | g, [] => some (.perform (g.options {}) .console)
  | g, arg :: rest =>
    match classify .beforeCommand arg with
    | .help => some (.help .program)
    | .version => some .version
    | .option name (some value) => do readProgram (← g.put name value) rest
    | .option name none =>
      match rest with
      | value :: rest => do if isValue value then readProgram (← g.put name value) rest else none
      | [] => none
    | .wordsOnly => if rest.isEmpty then some (.perform (g.options {}) .console) else none
    | .word =>
      if arg = "run" then readRun g {} rest
      else if arg = "help" then helpFor rest
      else none
    | .unknown => none

/-- What arguments ask for, if they fit together. -/
def Request.ofArgs? (args : List String) : Option Request := readProgram {} args

end LedBoard.CommandLine
