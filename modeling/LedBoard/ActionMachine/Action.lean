import LedBoard.ActionMachine.Object

/-!
# Code of the action machine

Code is JSON: an array of actions is a program, and an object that holds such an array under the
key `expr` is an expression. An action is an array of its name and what it acts with.

* `Code.ofText?`: reads code.
-/

namespace LedBoard.ActionMachine

/-- What code does, one after the other. Every action has a result, or stops the code. -/
inductive Action
  /-- Prints octets, said to be `length` in number, or as many as there are. -/
  | print (octets : Text.Octets) (length : Option Int)
  /-- Prints a text that is missing. -/
  | printNothing
  | value (o : Object)
  /-- Has no result. -/
  | stop
  /-- Looks up a path of names with points between them. -/
  | get (path : String)
  /-- Binds the latest result to a name. -/
  | set (name : String)
  /-- Calls the object at a path, saying that there are `count` arguments, or as many as there
      are. -/
  | call (path : String) (args : List Object) (count : Option Int)
  | importModule (name : String)
  | raise (className : String) (message : Text.Octets)
  deriving DecidableEq, Repr

/-- Code that was read. -/
inductive Code
  | expression (actions : List Action)
  | program (actions : List Action)
  deriving DecidableEq, Repr

/-! ## Reading -/

/-- An integer among what an action acts with. -/
def integerOf? : Json.Tree → Option Int
  | .number (.integer n) => some n
  | _ => none

/-- An action of its parts, its name first. -/
def Action.ofParts? : List Json.Tree → Option Action
  | [.string "print", octets] => (Object.octetsOf? octets).map (.print · none)
  | [.string "print", octets, n] => do
    return .print (← Object.octetsOf? octets) (some (← integerOf? n))
  | [.string "print_null"] => some .printNothing
  | [.string "value", v] => (Object.ofTree? v).map .value
  | [.string "null"] => some .stop
  | [.string "get", .string path] => some (.get path)
  | [.string "set", .string name] => some (.set name)
  | [.string "call", .string path, .array args] => do
    return .call path (← args.mapM Object.ofTree?) none
  | [.string "call", .string path, .array args, n] => do
    return .call path (← args.mapM Object.ofTree?) (some (← integerOf? n))
  | [.string "import", .string name] => some (.importModule name)
  | [.string "raise", .string className] => some (.raise className [])
  | [.string "raise", .string className, message] =>
    (Object.octetsOf? message).map (.raise className)
  | _ => none

/-- The actions of an array. -/
def actionsOf? : Json.Tree → Option (List Action)
  | .array items => items.mapM fun
    | .array parts => Action.ofParts? parts
    | _ => none
  | _ => none

namespace Code

/-- The code that JSON stands for. -/
def ofTree? (t : Json.Tree) : Option Code :=
  match t.get? "expr" with
  | some .null => some (.program [])
  | some actions => (actionsOf? actions).map .expression
  | none => (actionsOf? t).map .program

/-- Reads code. -/
def ofText? (text : String) : Option Code :=
  (Json.Tree.ofText? text).toOption >>= ofTree?

/-- The actions of an expression. -/
def expression? : Code → Option (List Action)
  | .expression actions => some actions
  | .program _ => none

/-- The actions of the code, which is run as statements. -/
def actions : Code → List Action
  | .expression actions | .program actions => actions

end Code

end LedBoard.ActionMachine
