import LedBoard.ActionMachine.Run
import LedBoard.CommandLine.Path
import LedBoard.CommandLine.Perform
import Std.Time.Zoned

/-!
# The program

The outer layer: it reads the files that the arguments name, asks the terminal for lines, shows
what comes of them, waits where the script waited, and writes the log. What is shown and logged
is decided elsewhere.
-/

namespace LedBoard

open CommandLine (Log Options Report Request System Trouble)
open Terminal (Palette Signal Console)

/-- The trouble behind an error of the system. -/
def troubleOf : IO.Error → Trouble
  | .noFileOrDirectory .. => .notFound
  | .alreadyExists .. => .exists
  | .inappropriateType _ code _ => if code = 20 ∨ code = 0 - 20 then .notFolder else .isFolder
  | e@(.invalidArgument _ code _) =>
    if code = 36 ∨ code = 0 - 36 then .nameTooLong else .other (toString e)
  | e => .other (toString e)

/-- Tries something of the system. -/
def tried {α : Type} (action : IO α) : IO (Except Trouble α) := do
  try return .ok (← action)
  catch e => return .error (troubleOf e)

/-- What the clock of the place shows. -/
def currentMoment : IO Time.Moment := do
  let now ← Std.Time.DateTime.now
  let total := now.toTimestamp.toNanosecondsSinceUnixEpoch.val.toNat
  return ⟨total / 1000000000, total % 1000000000, now.offset.second.val⟩

/-- Makes the folders around a file, and then the file. -/
def makeFile (path : String) : IO Unit := do
  (CommandLine.Path.around path).head?.forM fun folder => IO.FS.createDirAll folder
  let _ ← IO.FS.Handle.mk path .append

/-- Opens the log of a request and reads the files that it names: the answers of the system, by
    the paths asked about. There is no history of what is typed. -/
def systemFor (o : Options) (files : List String) : IO (System Unit) := do
  let values ← (CommandLine.Variables.referred o.logFile).mapM fun (name : String) => do
    return (name, ← IO.getEnv name)
  let s : System Unit :=
    { read := fun _ _ => .error .notFound
      openLog := fun _ _ => .ok ()
      openHistory := fun _ => .ok ()
      lookup := fun name => (values.lookup name).join
      now := ← currentMoment }
  let log ← match Log.ofOptions? s o with
    | .ok (some log) => tried (makeFile log.path)
    | _ => pure (.ok ())
  let contents ← files.mapM fun (path : String) => do
    return (path, ← tried (do return (← IO.FS.readBinFile path).data.toList))
  return { s with
    read := fun _ path => (contents.lookup path).getD (.error .notFound)
    openLog := fun _ _ => log }

/-- The colors are on where they are asked for, and on a terminal unless they are refused. -/
def chosenPalette : IO Palette := do
  let isOn (name : String) (default : Bool) : IO Bool := do
    return ((← IO.getEnv name).map (· != "0")).getD default
  if ← isOn "CLICOLOR_FORCE" false then return .vivid
  if (← IO.getEnv "NO_COLOR").isSome then return .plain
  let onTerminal ← (← IO.getStdout).isTty
  return if (← isOn "CLICOLOR" true) && onTerminal then .vivid else .plain

/-- Shows a text at once. -/
def showNow (text : String) : IO Unit := do
  let out ← IO.getStdout
  out.putStr text
  out.flush

/-- Does what the terminal is made to do. -/
def act : Terminal.Step → IO Unit
  | .piece text => showNow text
  | .complaint text => IO.eprint text
  | .wait ms => IO.sleep (UInt32.ofNat (min ms.toNat (UInt32.size - 1)))

/-- Shows events as they happen, and waits where the script waited. -/
def play (p : Palette) (leds : Leds) (events : List Event) : IO Unit :=
  (Terminal.play p leds events).forM act

/-- Writes the log. -/
def writeLog (path : String) (entries : List LogEntry) : IO Unit := do
  let handle ← IO.FS.Handle.mk path .append
  let now ← currentMoment
  entries.forM fun entry => handle.putStr (Log.line now entry)

/-- Shows what came of a request. -/
def present (p : Palette) (r : Report) : IO UInt32 := do
  play p .blank r.events
  (r.shown.drop (Terminal.shown p .blank r.events).length).forM showNow
  IO.eprint (String.ofList (r.complaint.toList.drop
    (Text.joined "" (Terminal.complaints r.events)).length))
  if let some (path, entries) := r.log then writeLog path entries
  return UInt32.ofNat r.status

/-- The world of a session on the machine. -/
abbrev SessionWorld :=
  Session (Embedded.Instance ActionMachine.Object) × Embedded.Shared ActionMachine.State × Host

/-- Asks the terminal for lines until the console stops. -/
partial def talk (p : Palette) (c : Console SessionWorld) (block : List String)
    (w : SessionWorld) : IO SessionWorld := do
  showNow (Terminal.prompt block)
  let line ← (← IO.getStdin).getLine
  let signal : Signal :=
    if line.isEmpty then .endOfInput
    else .line (String.ofList (line.toList.filter (· != '\n')))
  match (c.turn block signal).run w with
  | .error _ => throw (IO.userError "the session crashed")
  | .ok (next, after) =>
    play p .blank (after.2.2.events.drop w.2.2.trace.size)
    match next with
    | some block => talk p c block after
    | none => return after

/-- Starts a console on the terminal. -/
def converse (p : Palette) (log : Option Log) (config : Config) : IO UInt32 := do
  let e := ActionMachine.engine
  let start := (({ library := {} } : Embedded.Shared ActionMachine.State),
    CommandLine.terminalHost config {} true)
  match (Terminal.greet e p config).run start with
  | .error _ => throw (IO.userError "the session crashed")
  | .ok (.error cause, _) => present p (Report.failed {} p (.opening cause))
  | .ok (.ok s, w) =>
    play p .blank w.2.events
    let (s, w) ← talk p (Console.ofSession e p) [] (s, w)
    let events := match (s.close e).run w with
      | .ok (_, (_, h)) => h.events
      | .error _ => w.2.events
    if let some log := log then writeLog log.path (CommandLine.logged log.level events)
    return 0

/-- The files that a request names. -/
def filesOf : Request → Options × List String
  | .help _ | .version => ({}, [])
  | .perform o .console => (o, o.config.toList)
  | .perform o (.run program snapshot) => (o, o.config.toList ++ program :: snapshot.toList)

/-- Performs a request. -/
def perform (request : Request) : IO UInt32 := do
  let p ← chosenPalette
  let (o, files) := filesOf request
  let s ← systemFor o files
  let onTerminal ← (← IO.getStdin).isTty
  match Log.ofOptions? s o with
  | .error _ => throw (IO.userError "the log file has no name")
  | .ok log =>
    match request, onTerminal, CommandLine.openLog s () o log, CommandLine.readConfig s () o with
    | .perform _ .console, true, .ok (), .ok config => converse p log config
    | request, _, _, _ =>
      match CommandLine.perform s () ActionMachine.engine { library := {} } p [.unavailable]
          request with
      | .ok r => present p r
      | .error _ => throw (IO.userError "the program crashed")

end LedBoard

/-- Runs the program on its arguments. A crash has a status of its own. -/
def main (args : List String) : IO UInt32 := do
  match LedBoard.CommandLine.Request.ofArgs? args with
  | some request =>
    try LedBoard.perform request
    catch e =>
      IO.eprintln (toString e)
      return 101
  | none =>
    IO.eprint ("error: the arguments do not fit\n\n" ++
      LedBoard.CommandLine.Topic.text .plain .program)
    return 2
