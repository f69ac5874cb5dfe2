import LedBoard.Devices
import LedBoard.Engine

/-!
# Console sessions

A console session feeds what is typed to an interpreter and echoes the values of expressions. It
has two instances: the *live* one runs the input, and the *checker* only ever tells whether the
input is one expression, so that a wrong guess cannot run anything.

Opening creates the live instance, binds the functions of the console in it, and creates the
checker; it stops at the first failure. Every input then clears the checker, asks it, runs the
input on the live instance as an expression or as statements, reports how the run ended, and
clears the live instance (`Session.execute`).

What is printed goes to the output of the host, and so do echoes and errors.
-/

namespace LedBoard

/-- An open console session over instances of type `ι`. -/
structure Session (ι : Type) where
  /-- Runs the input. -/
  live : ι
  /-- Tells expressions from statements. -/
  checker : ι
  /-- The latest input asked to end the session. -/
  shouldExit : Bool := false

namespace Session

variable {κ ι : Type} (e : Engine Host κ ι)

/-- Acts on the host without an answer. -/
def act (f : Host → Host) : Run (κ × Host) Unit := Run.onHost fun h => ((), f h)

/-- Lets go of the live instance, and fails. -/
def abandon (live : ι) (cause : OpenError) : Run (κ × Host) (Except OpenError (Session ι)) := do
  e.drop live
  return .error cause

/-- Opens a session. -/
def openWith (config : Config) : Run (κ × Host) (Except OpenError (Session ι)) := do
  match ← e.create { enableOsAccess := config.enableOsAccess, print := some Host.print } with
  | .error cause => return .error (.live cause)
  | .ok live =>
    match ← e.setGlobalFunctions live Devices.consoleFunctions with
    | (.error cause, live) => abandon e live (.live cause)
    | (.ok (), live) =>
      match ← e.create {} with
      | .error cause => abandon e live (.checker cause)
      | .ok checker =>
        act (Host.emit · .sessionOpened)
        return .ok { live, checker }

/-- What the end of a run adds to the output, and what it leaves in the log. -/
def report : Completion → Host → Host
  | .exit, h => h
  | .error message, h => (h.emit (.inputFailed message)).print message
  | .value repr, h => h.print (repr ++ "\n")
  | .valueError message, h => h.print message
  | .noValue, h => h

/-- Runs one piece of input. -/
def execute (s : Session ι) (code : String) : Run (κ × Host) (InputMode × Session ι) := do
  let checker ← e.clearException s.checker
  let (isExpression, checker) ← e.compilesAsExpression checker code
  let mode : InputMode := if isExpression then .expression else .statements
  let (completion, live) ←
    if isExpression then e.evaluate s.live code else e.execute s.live code
  act (Host.emit · (.inputRun mode))
  act (report completion)
  let live ← e.clearException live
  return (mode, { live, checker, shouldExit := completion == .exit })

/-- Lets go of both instances. -/
def release (s : Session ι) : Run (κ × Host) Unit := do
  e.drop s.live
  e.drop s.checker

/-- Ends the session. -/
def close (s : Session ι) : Run (κ × Host) Unit := do
  act (Host.emit · .sessionClosed)
  release e s

end Session

end LedBoard
