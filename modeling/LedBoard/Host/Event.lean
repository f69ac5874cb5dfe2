import LedBoard.Display.Scroll
import LedBoard.Text.Blank

/-!
# Events

Everything that a session does to its surroundings is an event, and a host keeps its events in
the order in which they happen. What was sent to the display, how long was waited, what was
printed where a listener heard it: all these are parts of the one sequence.

* `Event.commands`, `Event.pauses`, `Event.chunks`: the events of one kind;
* `Event.screens`: the display at every pause;
* `Event.logEntry?`: what an event leaves in the log.
-/

namespace LedBoard

/-- How a piece of console input is run. -/
inductive InputMode
  /-- As one expression, whose value is echoed. -/
  | expression
  /-- As statements, which echo nothing. -/
  | statements
  deriving DecidableEq, Repr

/-- The name of the mode. -/
def InputMode.name : InputMode → String
  | .expression => "Expression"
  | .statements => "Statements"

/-- What happens to the surroundings of a session. -/
inductive Event
  /-- A command is sent to the display. -/
  | command (c : Command)
  /-- The script waits. -/
  | pause (ms : UInt64)
  /-- The listener of the output hears a chunk. -/
  | heard (chunk : String)
  /-- The console is cleared. -/
  | consoleCleared
  /-- The console asks for a line, with a prompt. -/
  | asked (prompt : String)
  /-- The console says something of its own. -/
  | told (text : String)
  /-- The console says something of its own, where errors are reported. -/
  | complained (text : String)
  /-- A context of the machine begins. -/
  | contextCreated
  /-- A context of the machine ends. -/
  | contextDestroyed
  /-- A console session begins. -/
  | sessionOpened
  /-- A console session ends. -/
  | sessionClosed
  /-- A piece of input was run. -/
  | inputRun (mode : InputMode)
  /-- A piece of input ended with an error. -/
  | inputFailed (message : String)
  /-- A program of so many octets is started. -/
  | programStarted (octets : Nat)
  /-- A program ended with an error. -/
  | programFailed (message : String)
  deriving DecidableEq, Repr

/-- What is told to the page about the console. -/
inductive ConsoleMessage
  /-- A text was printed. -/
  | stdout (text : String)
  /-- The console is cleared. -/
  | clear
  deriving DecidableEq, Repr

/-- The message as JSON. -/
def ConsoleMessage.toJson : ConsoleMessage → String
  | .stdout text =>
    Json.writeObject [("type", Json.writeString "stdout"), ("message", Json.writeString text)]
  | .clear => Json.writeObject [("type", Json.writeString "clear")]

/-- A stroke of a drawing on the display. -/
def Stroke.event : Stroke → Event
  | .clear => .command .clearDisplay
  | .plot x y brightness => .command (.setPixel (UInt8.ofNat x) (UInt8.ofNat y) brightness)
  | .pause ms => .pause ms

/-! ## The log -/

/-- The levels of the log, the gravest first. -/
inductive LogLevel
  | error
  | warn
  | info
  | debug
  | trace
  deriving DecidableEq, Repr

namespace LogLevel

/-- The name of the level in the log. -/
def name : LogLevel → String
  | .error => "ERROR"
  | .warn => "WARN"
  | .info => "INFO"
  | .debug => "DEBUG"
  | .trace => "TRACE"

/-- How much is let through up to the level. -/
def rank : LogLevel → Nat
  | .error => 1
  | .warn => 2
  | .info => 3
  | .debug => 4
  | .trace => 5

end LogLevel

/-- An entry of the log. -/
structure LogEntry where
  level : LogLevel
  /-- The part of the program that speaks. -/
  speaker : String
  message : String
  deriving DecidableEq, Repr

/-- The entry as text, which is a line unless the message has several. -/
def LogEntry.text (e : LogEntry) : String := e.level.name ++ " " ++ e.speaker ++ " " ++ e.message

namespace Event

/-- What an event leaves in the log. -/
def logEntry? : Event → Option LogEntry
  | .command c => some ⟨.trace, "wingbit::board", "bridge " ++ c.text⟩
  | .contextCreated => some ⟨.debug, "wingbit::engine::wings", "created wings context"⟩
  | .contextDestroyed => some ⟨.debug, "wingbit::engine::wings", "destroyed wings context"⟩
  | .sessionOpened => some ⟨.debug, "wingbit::repl", "repl session opened"⟩
  | .sessionClosed => some ⟨.debug, "wingbit::repl", "repl session closed"⟩
  | .inputRun mode => some ⟨.debug, "wingbit::repl", "executed input as " ++ mode.name⟩
  | .inputFailed message =>
    some ⟨.warn, "wingbit::repl", "script error: " ++ Text.trimEnd message⟩
  | .programStarted octets =>
    some ⟨.debug, "wingbit::simulator",
      "running program (" ++ Text.decimalNat octets ++ " bytes)"⟩
  | .programFailed message =>
    some ⟨.warn, "wingbit::simulator", "program failed: " ++ Text.trimEnd message⟩
  | .pause _ | .heard _ | .consoleCleared | .asked _ | .told _ | .complained _ => none

/-! ## The events of one kind -/

/-- The command of an event. -/
def command? : Event → Option Command
  | .command c => some c
  | _ => none

/-- The length of the pause of an event. -/
def pause? : Event → Option UInt64
  | .pause ms => some ms
  | _ => none

/-- The chunk that was heard. -/
def chunk? : Event → Option String
  | .heard chunk => some chunk
  | _ => none

/-- The commands sent to the display. -/
def commands (events : List Event) : List Command := events.filterMap command?

/-- The pauses. -/
def pauses (events : List Event) : List UInt64 := events.filterMap pause?

/-- The chunks heard. -/
def chunks (events : List Event) : List String := events.filterMap chunk?

/-- How often the console was cleared. -/
def consoleClears (events : List Event) : Nat := events.countP (· == .consoleCleared)

/-- The display after an event. -/
def onLeds (leds : Leds) : Event → Leds
  | .command c => leds.apply c
  | _ => leds

/-- The display at every pause, from a given one on. -/
def screens (leds : Leds) : List Event → List Leds
  | [] => []
  | .pause _ :: rest => leds :: screens leds rest
  | event :: rest => screens (onLeds leds event) rest

end Event

end LedBoard
