import LedBoard.Module

/-!
# Interpreters

A session uses an interpreter only through the operations of an `Engine`: it creates instances,
binds native functions and modules in them, asks whether a source is an expression, and runs
sources as expressions or as statements. How such a run ended is a `Completion`; what it did to
the host happens on the way.

An instance is a value that the operations pass on. What the instances of an engine share is
kept beside the host.
-/

namespace LedBoard

/-- How the run of a source ended. -/
inductive Completion
  /-- An expression has a value, which has this representation. -/
  | value (repr : String)
  /-- An expression has a value whose representation failed with this text. -/
  | valueError (text : String)
  /-- Statements have run, or the value of an expression is none. -/
  | noValue
  /-- The script asked to end the program. -/
  | exit
  /-- Another exception was not caught; this is its text. -/
  | error (text : String)
  deriving DecidableEq, Repr

/-- What a new instance is given. -/
structure EngineConfig (σ : Type) where
  enableOsAccess : Bool := false
  /-- Receives every chunk of text that a script prints. -/
  print : Option (String → σ → σ) := none

/-- An interpreter whose instances are of type `ι`, which act on a host `σ` and share a `κ`. -/
structure Engine (σ κ ι : Type) where
  create : EngineConfig σ → Run (κ × σ) (Except EngineError ι)
  /-- Binds a native function under a name. -/
  setGlobalFunction : ι → String → Native σ → Run (κ × σ) (Except EngineError Unit × ι)
  /-- Makes a module importable under its name. -/
  registerModule : ι → Module σ → Run (κ × σ) (Except EngineError Unit × ι)
  clearException : ι → Run (κ × σ) ι
  /-- Tells whether a source is one expression, without running it. -/
  compilesAsExpression : ι → String → Run (κ × σ) (Bool × ι)
  /-- Runs a source as an expression. -/
  evaluate : ι → String → Run (κ × σ) (Completion × ι)
  /-- Runs a source as statements. -/
  execute : ι → String → Run (κ × σ) (Completion × ι)
  /-- Lets go of an instance. -/
  drop : ι → Run (κ × σ) Unit

namespace Engine

variable {σ κ ι : Type}

/-- Registers modules one after the other, up to the first failure. -/
def registerModules (e : Engine σ κ ι) (i : ι) :
    List (Module σ) → Run (κ × σ) (Except EngineError Unit × ι)
  | [] => pure (.ok (), i)
  | m :: rest => do
    match ← e.registerModule i m with
    | (.ok (), i) => e.registerModules i rest
    | (.error cause, i) => pure (.error cause, i)

/-- Binds native functions one after the other, up to the first failure. -/
def setGlobalFunctions (e : Engine σ κ ι) (i : ι) :
    List (String × Native σ) → Run (κ × σ) (Except EngineError Unit × ι)
  | [] => pure (.ok (), i)
  | (name, f) :: rest => do
    match ← e.setGlobalFunction i name f with
    | (.ok (), i) => e.setGlobalFunctions i rest
    | (.error cause, i) => pure (.error cause, i)

end Engine

/-- Acts on the host beside what the instances share. -/
def Run.onHost {σ κ α : Type} (f : σ → α × σ) : Run (κ × σ) α := fun (shared, h) =>
  let (a, h) := f h
  .ok (a, (shared, h))

end LedBoard
