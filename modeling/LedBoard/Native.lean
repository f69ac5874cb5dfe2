import LedBoard.Error
import LedBoard.Value

/-!
# Native functions

A native function takes the arguments of a call and acts on a host `σ`; it returns a value,
refuses with a `ScriptError`, or crashes (`Native`). What a refusing function did to the host
before it refused stays done.

Arguments are checked in a fixed order: first their number (`checkArity`), then one after the
other their kinds (`intArg`, `strArg`). Asking for an argument that is not there crashes, which
the check of the number rules out.
-/

namespace LedBoard

/-- What acts on a host `σ` and can crash. -/
abbrev Run (σ : Type) := StateT σ (Except Crash)

/-- What acts on a host `σ` and can be refused. -/
abbrev Call (σ : Type) := ExceptT ScriptError (Run σ)

/-- A native function on a host `σ`. -/
abbrev Native (σ : Type) := List Value → Call σ Value

variable {σ : Type}

/-! ## Arguments -/

/-- Refuses a call whose arguments are not `expected` in number. -/
def checkArity (expected : Nat) (args : List Value) : Call σ Unit :=
  if args.length = expected then pure () else throw (.argumentCount expected args.length)

/-- The argument at a place, counted from zero. -/
def argument (args : List Value) (index : Nat) : Call σ Value :=
  match args[index]? with
  | some v => pure v
  | none => throwThe Crash .indexOutOfRange

/-- The integer at a place; a truth value is not an integer. -/
def intArg (args : List Value) (index : Nat) : Call σ Int64 := do
  match ← argument args index with
  | .int n => pure n
  | other => throw (.argumentType index .int other.typeName)

/-- The text at a place. -/
def strArg (args : List Value) (index : Nat) : Call σ String := do
  match ← argument args index with
  | .str s => pure s
  | other => throw (.argumentType index .str other.typeName)

/-! ## Functions that leave the host alone -/

namespace Native

/-- Returns the same value whatever the arguments. -/
def const (v : Value) : Native σ := fun _ => pure v

/-- Returns its first argument, if it has one. -/
def echo : Native σ := fun args => pure (args.headD .none)

/-- Returns the names of the types of its arguments. -/
def typeNames : Native σ := fun args => pure (.str (Text.joined "," (args.map Value.typeName)))

/-- Returns its arguments as text. -/
def displays : Native σ := fun args => pure (.str (Text.joined " " (args.map Value.display)))

/-- Refuses every call. -/
def refuse (message : String) : Native σ := fun _ => throw (.value message)

/-- Returns the last of `index` + 1 arguments, which must be an integer. -/
def integerAt (index : Nat) : Native σ := fun args => do
  checkArity (index + 1) args
  return .int (← intArg args index)

/-- Returns the last of `index` + 1 arguments, which must be a text. -/
def textAt (index : Nat) : Native σ := fun args => do
  checkArity (index + 1) args
  return .str (← strArg args index)

/-- Crashes. -/
def giveUp : Native σ := fun _ => throwThe Crash .gaveUp

end Native

end LedBoard
