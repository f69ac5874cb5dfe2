import LedBoard.Session
import LedBoard.Terminal.Screen

/-!
# The console

The console asks for lines and runs them in a session. A line is run at once, unless it ends in
a colon: that opens a block, which collects every further line, whatever it looks like, until a
blank one runs the block as a whole. Outside a block a line that starts with a point is a
command to the console itself. An interrupt drops the block that is open.

The console stops at a command to leave, at the end of the input, when no line can be read, or
when what was run asked to end; a block that is then still open is not run.

* `react`: what the console does about a signal, given the lines of the open block;
* `converse`: the conversation over a sequence of signals;
* `hold`: a conversation over a session of its own.
-/

namespace LedBoard.Terminal

/-- What comes in when a line was asked for. -/
inductive Signal
  | line (text : String)
  | interrupt
  | endOfInput
  /-- No line can be read. -/
  | unavailable
  deriving DecidableEq, Repr

/-! ## What the console says -/

/-- What the console says of its own. -/
inductive Notice
  | banner
  | help
  | unknownCommand (input : String)
  /-- An interrupt outside a block. -/
  | interrupted
  /-- An interrupt dropped the open block. -/
  | blockDropped
  | ended
  | noTerminal
  deriving DecidableEq, Repr

/-- The lines of the help: the text of each, with the part that stands out. -/
def helpText (p : Palette) : String :=
  let title s := "  " ++ p.strong .cyan s ++ "\n"
  let entry name explanation := "    " ++ p.paint .yellow name ++ explanation ++ "\n"
  "\n" ++ title "REPL Commands:" ++
    entry ".exit" "    Exit the REPL" ++
    entry ".clear" "   Clear the screen" ++
    entry ".help" "    Show this help" ++
    "\n" ++ title "Builtins:" ++
    entry "clear()" "  Clear the screen" ++
    entry "version()" " Show the version" ++
    entry "exit()" "  Leave the REPL" ++
    "\n" ++ title "Blocks:" ++
    "    A line ending in " ++ p.paint .yellow ":" ++ " continues until an empty line\n\n"

/-- What the console says, in words. -/
def Notice.text (p : Palette) : Notice → String
  | .banner =>
    "\n  " ++ p.strong .cyan "Wingbit" ++ "  " ++
      p.paint .brightBlack ("v" ++ Devices.version) ++ "\n  " ++
      p.paint .brightBlack "Type .help for commands, .exit to quit" ++ "\n\n"
  | .help => helpText p
  | .unknownCommand input =>
    p.paint .red "!" ++ " Unknown command: " ++ input ++ "\n  Type " ++ p.paint .cyan ".help" ++
      " for available commands\n"
  | .interrupted => p.paint .brightBlack "^C" ++ "\n"
  | .blockDropped => p.paint .brightBlack "^C (input cleared)" ++ "\n"
  | .ended => p.paint .brightBlack "^D" ++ "\n"
  | .noTerminal => "Error: no terminal\n"

/-- What saying it does: the lack of a terminal is an error. -/
def Notice.event (p : Palette) : Notice → Event
  | .noTerminal => .complained (Notice.text p .noTerminal)
  | notice => .told (notice.text p)

/-- The prompt, given the lines of the open block. -/
def prompt (block : List String) : String := if block.isEmpty then ">>> " else "... "

/-! ## Reactions -/

/-- What the console does about a signal. After all but the second no block is open. -/
inductive Reaction
  | nothing
  /-- Adds a line to the block, which may be the first. -/
  | collect (line : String)
  | run (code : String)
  | clear
  | tell (notice : Notice)
  /-- Stops, perhaps with a last word. -/
  | stop (notice : Option Notice)
  deriving DecidableEq, Repr

/-- What the console does about a command. -/
def command (input : String) : Reaction :=
  if input = ".exit" ∨ input = ".quit" then .stop none
  else if input = ".help" then .tell .help
  else if input = ".clear" then .clear
  else .tell (.unknownCommand input)

/-- What the console does about a line. Only code that is run can ask to end, and then the console
    stops at once, so there is no need to ask about that at a blank line outside a block. -/
def reactToLine (block : List String) (line : String) : Reaction :=
  let input := Text.trimChars line.toList
  if input.isEmpty then
    if block.isEmpty then .nothing else .run (Text.joined "\n" block)
  else if !block.isEmpty then .collect line
  else if input.head? = some '.' then command (String.ofList input)
  else if input.getLast? = some ':' then .collect line
  else .run line

/-- What the console does about a signal. -/
def react (block : List String) : Signal → Reaction
  | .line text => reactToLine block text
  | .interrupt => .tell (if block.isEmpty then .interrupted else .blockDropped)
  | .endOfInput => .stop (some .ended)
  | .unavailable => .stop (some .noTerminal)

/-! ## Conversations -/

/-- What a console does to a world `W`. -/
structure Console (W : Type) where
  ask : (prompt : String) → Run W Unit
  /-- Runs code, and tells whether it asked to end. -/
  execute : (code : String) → Run W Bool
  clear : Run W Unit
  tell : Notice → Run W Unit

namespace Console

variable {W : Type} (c : Console W)

/-- Carries out a reaction: the lines of the block that is then open, or nothing if the console
    stops. -/
def perform (block : List String) : Reaction → Run W (Option (List String))
  | .nothing => pure (some [])
  | .collect line => pure (some (block ++ [line]))
  | .run code => do if ← c.execute code then return none else return some []
  | .clear => do c.clear; return some []
  | .tell notice => do c.tell notice; return some []
  | .stop notice => do notice.forM c.tell; return none

/-- Asks for a line, and answers the signal that comes. -/
def turn (block : List String) (s : Signal) : Run W (Option (List String)) := do
  c.ask (prompt block)
  c.perform block (react block s)

/-- Answers signals until the console stops, and gives back those that are left. -/
def converse : (block : List String) → List Signal → Run W (List Signal)
  | _, [] => pure []
  | block, s :: rest => do
    match ← c.turn block s with
    | some block => converse block rest
    | none => return rest

end Console

/-! ## Sessions -/

variable {κ ι : Type}

/-- Acts on the host of a session. -/
def onHost (f : Host → Host) : Run (Session ι × κ × Host) Unit := fun (s, shared, h) =>
  .ok ((), (s, shared, f h))

/-- Runs code in a session, whose output is shown at once and then dropped. -/
def executeShown (e : Engine Host κ ι) (code : String) : Run (Session ι × κ × Host) Bool :=
  fun (s, w) => do
    let ((_, s), (shared, h)) ← (s.execute e code).run w
    return (s.shouldExit, (s, shared, h.clearOutput))

/-- The console of a session. -/
def Console.ofSession (e : Engine Host κ ι) (p : Palette) : Console (Session ι × κ × Host) where
  ask prompt := onHost (Host.emit · (.asked prompt))
  execute := executeShown e
  clear := onHost Host.clearConsole
  tell notice := onHost (Host.emit · (notice.event p))

/-- Opens a session and greets. -/
def greet (e : Engine Host κ ι) (p : Palette) (config : Config) :
    Run (κ × Host) (Except OpenError (Session ι)) := do
  match ← Session.openWith e config with
  | .error cause => return .error cause
  | .ok s =>
    Session.act (Host.emit · (Notice.banner.event p))
    return .ok s

/-- Opens a session, greets, and lets go of the session. -/
def greetOnly (e : Engine Host κ ι) (p : Palette) (config : Config) :
    Run (κ × Host) (Except OpenError Unit) := do
  match ← greet e p config with
  | .error cause => return .error cause
  | .ok s =>
    s.release e
    return .ok ()

/-- Holds a conversation over a session of its own, and gives back the signals that are left. -/
def hold (e : Engine Host κ ι) (p : Palette) (config : Config) (signals : List Signal) :
    Run (κ × Host) (Except OpenError (List Signal)) := do
  match ← greet e p config with
  | .error cause => return .error cause
  | .ok s =>
    let (rest, s, w) ← ((Console.ofSession e p).converse [] signals).run (s, ← get)
    set w
    s.close e
    return .ok rest

end LedBoard.Terminal
