import LedBoard.Error

/-!
# Exceptions of scripts

There are twelve classes of exceptions, ordered in a tree: each but the root derives from its
parent. A class is known to scripts by its name. An exception has a class and a message.

* `ExceptionClass.derivesFrom`: the class is another one or derives from it. The walk up the
  parents ends at the root (`ExceptionClass.depth_parent`);
* `Exception.text`: how an exception that is not caught is reported.
-/

namespace LedBoard.Script

/-- The classes of exceptions. -/
inductive ExceptionClass
  | baseException
  | systemExit
  | shutdownExit
  | exception
  | typeError
  | valueError
  | nameError
  | runtimeError
  | zeroDivisionError
  | attributeError
  | importError
  | syntaxError
  deriving DecidableEq, Repr

namespace ExceptionClass

/-- The name of a class. -/
def name : ExceptionClass → String
  | .baseException => "BaseException"
  | .systemExit => "SystemExit"
  | .shutdownExit => "ShutdownExit"
  | .exception => "Exception"
  | .typeError => "TypeError"
  | .valueError => "ValueError"
  | .nameError => "NameError"
  | .runtimeError => "RuntimeError"
  | .zeroDivisionError => "ZeroDivisionError"
  | .attributeError => "AttributeError"
  | .importError => "ImportError"
  | .syntaxError => "SyntaxError"

/-- All classes. -/
def all : List ExceptionClass :=
  [.baseException, .systemExit, .shutdownExit, .exception, .typeError, .valueError, .nameError,
   .runtimeError, .zeroDivisionError, .attributeError, .importError, .syntaxError]

/-- The class of a name. -/
def ofName? (name : String) : Option ExceptionClass := all.find? (·.name = name)

/-- The class that a class derives from. -/
def parent : ExceptionClass → Option ExceptionClass
  | .baseException => none
  | .systemExit | .exception => some .baseException
  | .shutdownExit => some .systemExit
  | .typeError | .valueError | .nameError | .runtimeError | .zeroDivisionError
  | .attributeError | .importError | .syntaxError => some .exception

/-- How many parents a class has above it. -/
def depth : ExceptionClass → Nat
  | .baseException => 0
  | .systemExit | .exception => 1
  | _ => 2

/-- The walk up the parents comes nearer to the root with every step. -/
theorem depth_parent {c p : ExceptionClass} (h : c.parent = some p) : p.depth < c.depth := by
  cases c <;> simp only [parent, Option.some.injEq, reduceCtorEq] at h <;> subst h <;> decide

/-- The class is `base` or derives from it. -/
def derivesFrom (c base : ExceptionClass) : Bool :=
  c = base ||
    match h : c.parent with
    | some p =>
      have := depth_parent h
      p.derivesFrom base
    | none => false
  termination_by c.depth

end ExceptionClass

/-- An exception. -/
structure Exception where
  kind : ExceptionClass
  message : String
  deriving DecidableEq, Repr

namespace Exception

/-- The source is not a script. -/
def badSource : Exception := ⟨.syntaxError, "invalid syntax"⟩

/-- The exception as text: the name of its class and its message, if it has one. -/
def text (e : Exception) : String :=
  if e.message.isEmpty then e.kind.name ++ "\n" else e.kind.name ++ ": " ++ e.message ++ "\n"

/-- The exception asks to end the program. -/
def asksToExit (e : Exception) : Bool := e.kind.derivesFrom .systemExit

/-- The class of exceptions that a refusal of a native function becomes. -/
def classOfKind : ErrorKind → ExceptionClass
  | .typeError => .typeError
  | .valueError => .valueError

/-- The exception that a refusal of a native function becomes. -/
def ofScriptError (e : ScriptError) : Exception := ⟨classOfKind e.kind, e.message⟩

end Exception

end LedBoard.Script
