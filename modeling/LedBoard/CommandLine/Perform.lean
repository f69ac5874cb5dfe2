import LedBoard.CommandLine.Help
import LedBoard.CommandLine.Stamps
import LedBoard.CommandLine.System
import LedBoard.CommandLine.Variables
import LedBoard.Simulator
import LedBoard.Terminal.Console

/-!
# What the program does

A request is performed in a fixed order: the log is opened, the settings are read, and then the
command is carried out; the first failure ends it. A program that is run shows what it prints
and a drawing of the display at every pause, and then one last drawing, whether it failed or
not. The console shows its conversation, after it has opened the history of what was typed.

* `runProgram`: runs a program;
* `perform`: performs a request;
* `Report`: what comes of it, on the screen, as a status and in the log.
-/

namespace LedBoard.CommandLine

open Terminal (Palette Signal)

/-- Why the program fails. -/
inductive Failure
  | logFile (path : String) (cause : Trouble)
  | config (path : String) (cause : Trouble)
  | configProblem (problem : Json.Problem)
  /-- The file of a program or of a snapshot cannot be read. -/
  | file (path : String) (cause : Trouble)
  | snapshotProblem (path : String) (problem : Json.Problem)
  | opening (cause : OpenError)
  /-- The history of the console cannot be opened. -/
  | history (cause : Trouble)
  /-- The program that was run ended with an exception. -/
  | program (path : String)
  deriving DecidableEq, Repr

/-- The failure in words. -/
def Failure.message : Failure → String
  | .logFile path cause => "cannot open log file " ++ path ++ ": " ++ cause.text
  | .config path cause => "cannot read " ++ path ++ ": " ++ cause.text
  | .configProblem problem => Config.problemText problem
  | .file path cause => "Error reading file '" ++ path ++ "': " ++ cause.text
  | .snapshotProblem path problem => "Invalid board state '" ++ path ++ "': " ++ problem.message
  | .opening cause => cause.message
  | .history cause => "I/O error: " ++ cause.text
  | .program path => path ++ " failed"

/-! ## Preparations -/

variable {δ : Type} (s : System δ) (d : δ)

/-- A log: the least grave level that is let through, and the file. -/
structure Log where
  level : LogLevel
  path : String
  deriving DecidableEq, Repr

/-- The log that there is to be, if any. In its path the values of variables are put in place,
    and then the time. -/
def Log.ofOptions? (o : Options) : Except Crash (Option Log) :=
  match o.logLevel with
  | none => .ok none
  | some level =>
    match Stamps.expand? s.now (Variables.expand s.lookup o.logFile) with
    | some path => .ok (some ⟨level, path⟩)
    | none => .error .badPattern

/-- How the time of an entry is written. -/
def Log.stamp : Time.Pattern := (Time.Pattern.ofText? "%Y-%m-%d %H:%M:%S").getD []

/-- An entry as it stands in the file, with the time at which it was made. -/
def Log.line (now : Time.Moment) (entry : LogEntry) : String :=
  Log.stamp.write now ++ " " ++ entry.text ++ "\n"

/-- Opens the log, if there is one. A failure names the file as it was given. -/
def openLog (o : Options) : Option Log → Except Failure δ
  | some log => (s.openLog d log.path).mapError (.logFile o.logFile)
  | none => .ok d

/-- Reads the settings. -/
def readConfig (o : Options) : Except Failure Config :=
  match o.config with
  | none => .ok {}
  | some path => do
    let text ← (s.readText d path).mapError (.config path)
    (Config.ofJson? text).mapError .configProblem

/-- Reads the first snapshot of the board, if there is one. -/
def readSensors : Option String → Except Failure Sensors
  | none => .ok {}
  | some path => do
    let text ← (s.readText d path).mapError (.file path)
    (Sensors.updateJson {} text).mapError (.snapshotProblem path)

/-- Reads a program and the first snapshot of the board. -/
def readSource (program : String) (snapshot : Option String) :
    Except Failure (String × Sensors) := do
  let source ← (s.readText d program).mapError (.file program)
  return (source, ← readSensors s d snapshot)

/-! ## Reports -/

/-- What comes of a request. -/
structure Report where
  status : Nat := 0
  /-- What is shown, piece by piece. -/
  shown : List String := []
  /-- What is said about errors. -/
  complaint : String := ""
  /-- What happened to the host. -/
  events : List Event := []
  /-- The signals that were left when the console stopped. -/
  left : List Signal := []
  /-- The file of the log and its entries, if one was opened. -/
  log : Option (String × List LogEntry) := none

/-- The report of what happened to the host. -/
def Report.ofEvents (p : Palette) (events : List Event) : Report :=
  { events, shown := Terminal.shown p .blank events
    complaint := Text.joined "" (Terminal.complaints events) }

/-- The complaint about a failure. -/
def complaintOf (p : Palette) (f : Failure) : String :=
  p.strong .red "error:" ++ " " ++ f.message ++ "\n"

/-- The report after a failure. -/
def Report.failed (r : Report) (p : Palette) (f : Failure) : Report :=
  { r with status := 1, complaint := r.complaint ++ complaintOf p f }

/-- The entries that events leave in a log of a level. -/
def logged (level : LogLevel) (events : List Event) : List LogEntry :=
  (events.filterMap Event.logEntry?).filter fun e => e.level.rank ≤ level.rank

/-- The report with what its events leave in a log. -/
def Report.logging (r : Report) (log : Option Log) : Report :=
  { r with log := log.map fun l => (l.path, logged l.level r.events) }

/-! ## Commands -/

variable {κ ι : Type} (e : Engine Host κ ι) (shared : κ) (p : Palette)

/-- The host of a terminal: what is printed is heard at once. -/
def terminalHost (config : Config) (sensors : Sensors) (hasConsole : Bool) : Host :=
  Host.listening (Host.configured { sensors, hasConsole } config)

/-- Runs a program whose text was read. -/
def runProgram (config : Config) (path source : String) (sensors : Sensors) :
    Except Crash Report := do
  let (outcome, (_, h)) ← (Simulator.run e config source).run
    (shared, terminalHost config sensors false)
  let r := Report.ofEvents p h.events
  match outcome with
  | .error cause => return r.failed p (.opening cause)
  | .ok outcome =>
    let r := { r with shown := r.shown ++ [Terminal.drawing p h.leds] }
    return if outcome = .failed then r.failed p (.program path) else r

/-- Starts the console, and lets it answer signals. Without a history it ends where it would ask
    for the first line. -/
def runConsole (config : Config) (signals : List Signal) : Except Crash Report := do
  let start := (shared, terminalHost config {} true)
  match s.openHistory d with
  | .ok () =>
    let (left, (_, h)) ← (Terminal.hold e p config signals).run start
    let r := Report.ofEvents p h.events
    match left with
    | .error cause => return { r with left := signals }.failed p (.opening cause)
    | .ok left => return { r with left }
  | .error cause =>
    let (greeted, (_, h)) ← (Terminal.greetOnly e p config).run start
    let r := { Report.ofEvents p h.events with left := signals }
    match greeted with
    | .error cause => return r.failed p (.opening cause)
    | .ok () => return r.failed p (.history cause)

/-- Carries out a command with settings that were read. -/
def carryOut (config : Config) (signals : List Signal) : Command → Except Crash Report
  | .console => runConsole s d e shared p config signals
  | .run program snapshot => do
    let r ← match readSource s d program snapshot with
      | .error f => pure (Report.failed {} p f)
      | .ok (source, sensors) => runProgram e shared p config program source sensors
    return { r with left := signals }

/-- Performs a request. -/
def perform (signals : List Signal) : Request → Except Crash Report
  | .help topic => return { shown := [topic.text p], left := signals }
  | .version => return { shown := [versionText], left := signals }
  | .perform o command => do
    let log ← Log.ofOptions? s o
    match openLog s d o log with
    | .error f => return Report.failed { left := signals } p f
    | .ok d => do
      let r ← match readConfig s d o with
        | .error f => pure (Report.failed { left := signals } p f)
        | .ok config => carryOut s d e shared p config signals command
      return r.logging log

/-- Does what arguments ask for; if they do not fit together nothing is done. -/
def performArgs (signals : List Signal) (args : List String) : Except Crash Report :=
  match Request.ofArgs? args with
  | some request => perform s d e shared p signals request
  | none => return { status := 2, left := signals }

end LedBoard.CommandLine
