import LedBoard.Devices
import LedBoard.Engine

/-!
# Running programs

A program for the board runs from its start to its end in an interpreter of its own, which has
the modules of the board and is let go of afterwards: nothing but the board itself carries over
from one program to the next.

`run` creates the instance, registers the modules in their order, runs the program once and
clears the exception it may have left; it stops at the first failure.
-/

namespace LedBoard.Simulator

/-- How a program ended. -/
inductive Outcome
  | finished
  /-- It asked to end. -/
  | exited
  /-- An exception was not caught; its text is in the output. -/
  | failed
  deriving DecidableEq, Repr

/-- The name of the outcome. -/
def Outcome.name : Outcome → String
  | .finished => "finished"
  | .exited => "exited"
  | .failed => "failed"

variable {κ ι : Type} (e : Engine Host κ ι)

/-- The outcome of a run that ended so. -/
def outcome : Completion → Outcome
  | .exit => .exited
  | .error _ => .failed
  | .value _ | .valueError _ | .noValue => .finished

/-- What the end of a run adds to the output, and what it leaves in the log. -/
def report : Completion → Host → Host
  | .error message, h => (h.emit (.programFailed message)).print message
  | _, h => h

/-- Runs a program. -/
def run (config : Config) (code : String) : Run (κ × Host) (Except OpenError Outcome) := do
  match ← e.create { enableOsAccess := config.enableOsAccess, print := some Host.print } with
  | .error cause => return .error (.live cause)
  | .ok i =>
    match ← e.registerModules i Devices.all with
    | (.error cause, i) =>
      e.drop i
      return .error (.live cause)
    | (.ok (), i) =>
      Run.onHost fun h => ((), h.emit (.programStarted code.utf8ByteSize))
      let (completion, i) ← e.execute i code
      Run.onHost fun h => ((), report completion h)
      let i ← e.clearException i
      e.drop i
      return .ok (outcome completion)

end LedBoard.Simulator
