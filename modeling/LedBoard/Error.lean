import LedBoard.Text.Decimal

/-!
# What can go wrong

Four kinds of failure, from the inside out. A native function refuses its arguments with a
`ScriptError`, which becomes an exception of the script. An interpreter that cannot be set up
reports an `EngineError`, and a session that therefore cannot be opened an `OpenError`, whose
status tells which of its two interpreters failed. A `Crash` is none of these: it ends
everything at once, and no script can catch it; only where a native function is called by an
embedded machine does it become an exception.
-/

namespace LedBoard

/-- An end of everything, which no script sees and no session survives. -/
inductive Crash
  /-- A place beyond the end of a list was asked for. -/
  | indexOutOfRange
  /-- The result of an operation on integers does not fit into 64 bits. -/
  | overflow
  /-- A native function gave up. -/
  | gaveUp
  /-- A function object outlived the native function behind it. -/
  | lostFunction
  /-- A pattern of time cannot be read. -/
  | badPattern
  deriving DecidableEq, Repr

/-! ## Errors of native functions -/

/-- The exceptions that a native function can raise. -/
inductive ErrorKind
  | typeError
  | valueError
  deriving DecidableEq, Repr

/-- The name of the exception. -/
def ErrorKind.name : ErrorKind → String
  | .typeError => "TypeError"
  | .valueError => "ValueError"

/-- The kinds of argument that a native function can ask for. -/
inductive ArgumentKind
  | int
  | str
  deriving DecidableEq, Repr

/-- The name of the type asked for. -/
def ArgumentKind.name : ArgumentKind → String
  | .int => "int"
  | .str => "str"

/-- Why a native function refused a call. -/
inductive ScriptError
  /-- It was given `given` arguments and takes `expected`. -/
  | argumentCount (expected given : Nat)
  /-- The argument at the place `index`, counted from zero, has the type `found`. -/
  | argumentType (index : Nat) (expected : ArgumentKind) (found : String)
  /-- The arguments have the right types, but not values that it accepts. -/
  | value (message : String)
  deriving DecidableEq, Repr

namespace ScriptError

/-- The exception that the error becomes. -/
def kind : ScriptError → ErrorKind
  | .argumentCount .. | .argumentType .. => .typeError
  | .value _ => .valueError

/-- The text of the error; arguments are counted from one. -/
def message : ScriptError → String
  | .argumentCount expected given =>
    "function takes " ++ Text.decimalNat expected ++
      (if expected = 1 then " argument" else " arguments") ++ " but " ++ Text.decimalNat given ++
      (if given = 1 then " was" else " were") ++ " given"
  | .argumentType index expected found =>
    "argument " ++ Text.decimalNat (index + 1) ++ " must be of type " ++ expected.name ++
      ", not " ++ found
  | .value message => message

end ScriptError

/-! ## Errors of the setting up -/

/-- Why an interpreter could not be set up. -/
inductive EngineError
  | createFailed
  /-- The native function of this name could not be bound. -/
  | function (name : String)
  /-- The module of this name could not be registered. -/
  | module (name : String)
  /-- The source holds a NUL character. -/
  | nulInSource
  deriving DecidableEq, Repr

/-- The text of the error. -/
def EngineError.message : EngineError → String
  | .createFailed => "failed to create interpreter instance"
  | .function name => "failed to bind native function '" ++ name ++ "'"
  | .module name => "failed to register module '" ++ name ++ "'"
  | .nulInSource => "source text contains a NUL byte"

/-- Why a session could not be opened. -/
inductive OpenError
  /-- The interpreter that runs the input failed. -/
  | live (cause : EngineError)
  /-- The interpreter that only tells expressions from statements failed. -/
  | checker (cause : EngineError)
  deriving DecidableEq, Repr

namespace OpenError

/-- The status handed to the host; it tells which interpreter failed. -/
def status : OpenError → Nat
  | .live _ => 1
  | .checker _ => 2

/-- The text of the error. -/
def message : OpenError → String
  | .live cause => "live interpreter: " ++ cause.message
  | .checker cause => "expression checker: " ++ cause.message

end OpenError

end LedBoard
