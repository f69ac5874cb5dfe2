import LedBoard.ActionMachine.Action
import LedBoard.ActionMachine.Call
import LedBoard.ActionMachine.Context

/-!
# The library of the action machine

The machine numbers its contexts in the order in which they were asked for, logs the calls that
are made on it, and can be made to fail (`Faults`). Its library is made of the operations that
change nothing else. An operation on a context that has ended does nothing.
-/

namespace LedBoard.ActionMachine

open Embedded (Address)

/-- What the machine keeps. -/
structure State where
  faults : Faults := {}
  /-- How many contexts were asked for. -/
  created : Nat := 0
  contexts : Bindings Address Context := .empty
  /-- The calls made so far. -/
  calls : Array (Address × Call) := #[]

namespace State

/-- The calls in words, each after the number of its context. -/
def lines (s : State) : List String :=
  s.calls.toList.map fun (a, c) => Text.decimalNat a ++ " " ++ c.text

/-- A call was made. -/
def note (s : State) (a : Address) (c : Call) : State := { s with calls := s.calls.push (a, c) }

/-- Changes a context. -/
def update (s : State) (a : Address) (f : Context → Context) : State :=
  match s.contexts a with
  | some c => { s with contexts := s.contexts.bind a (f c) }
  | none => s

end State

/-- Logs a call. -/
def noted (a : Address) (c : Call) : StateM State Unit := modify (·.note a c)

/-- Changes a context. -/
def update (a : Address) (f : Context → Context) : StateM State Unit := modify (·.update a f)

/-- Asks a live context. -/
def ask {α : Type} (a : Address) (f : Faults → Context → Option α) : StateM State (Option α) := do
  let s ← get
  return s.contexts a >>= f s.faults

/-- Makes an object, which is written as JSON in the log. -/
def new (a : Address) (json : String) (o : Object) : StateM State (Option Object) := do
  noted a (.new json)
  return some o

/-- Raises an exception with a text of the machine. -/
def raise (a : Address) (className message : String) : StateM State Unit :=
  update a (·.raise className (Text.encode message))

/-- The name of a class; what is no class has none. -/
def classNameOf : Object → String
  | .exceptionClass name => name
  | _ => ""

/-- The object that making an expression out of code gives. -/
def compiled : Object := .other "code"

/-- The operations that change nothing but the machine. -/
def library : Embedded.Library State Object where
  defaultConfig :=
    { osAccess := false, maxRecursion := 100, maxCollectionSize := 1000, collectorFactor := 2,
      argumentCount := 0, print := none }
  createContext config := do
    let s ← get
    let a := s.created
    set { s.note a (.createContext config) with created := a + 1 }
    if s.faults.create = some a then return none
    modify fun s => { s with contexts := s.contexts.bind a { print := config.print } }
    return some a
  destroyContext a := do
    let references := (← ask a fun _ c => some c.references).getD 0
    noted a (.destroyContext references)
    modify fun s => { s with contexts := s.contexts.unbind a }
  getGlobal a name := do
    noted a (.getGlobal name)
    ask a fun faults c => c.lookup faults ownSpace name
  setGlobal a name o := do
    let space := (← ask a fun _ c => some c.current).getD ownSpace
    noted a (.setGlobal space name)
    update a (·.bind space name o)
  incRef a _ := update a fun c => { c with references := c.references + 1 }
  decRef a _ := update a fun c => { c with references := c.references - 1 }
  newFunction a ticket name := do
    noted a (.newFunction name)
    return if (← get).faults.newFunction = some name then none else some (.function name ticket)
  functionTicket a := ask a fun faults c => if faults.ticket then none else c.called
  registerModule a name slot := do
    noted a (.registerModule name)
    update a fun c => { c with loaders := c.loaders.bind name slot }
  compileExpression a code sourceName := do
    noted a (.compileExpression sourceName)
    if (Code.ofText? code >>= Code.expression?).isSome then return some compiled
    raise a "SyntaxError" "invalid syntax"
    return none
  getException a := ask a fun _ c => c.pending.map (.exception ·.className)
  clearException a := do
    noted a (.clearException (← ask a fun _ c => c.pending.map (·.className)))
    update a fun c => { c with pending := none }
  errorMessage a := ask a fun faults c =>
    if faults.message then none
    else some ((c.pending.map Pending.text).getD (Text.encode "no error\n"))
  isInstance := Object.isInstance
  isNone o := o = .none
  isBool := fun
    | .bool _ => true
    | _ => false
  isInt := fun
    | .int _ => true
    | _ => false
  isNumber := fun
    | .int _ | .float _ => true
    | _ => false
  isString := fun
    | .string _ => true
    | _ => false
  getBool o := o = .bool true
  getInt := fun
    | .int n => n
    | _ => 0
  getFloat := fun
    | .float x => x
    | _ => ⟨0⟩
  getString := fun
    | .string octets => some octets
    | _ => none
  newNone a := new a "null" .none
  newBool a b := new a (Text.truth b) (.bool b)
  newInt a n := new a (Text.decimal n.toInt) (.int n)
  newFloat a x := new a (Json.writeString ("float:" ++ Text.hex 16 x.bits.toNat)) (.float x)
  newString a s := new a (Json.writeString s) (.string (Text.encode s))
  raiseArgumentCount a given expected := do
    noted a (.raiseArgumentCount given expected)
    raise a "TypeError"
      ("given " ++ Text.decimal given.toInt ++ ", expected " ++ Text.decimal expected.toInt)
  raiseArgumentType a index expected := do
    noted a (.raiseArgumentType index expected)
    raise a "TypeError" ("index " ++ Text.decimal index.toInt ++ ", expected " ++ expected)
  raiseClass a o message := do
    noted a (.raiseClass (classNameOf o) message)
    raise a (classNameOf o) message

end LedBoard.ActionMachine
