import LedBoard.ActionMachine.Library
import LedBoard.Embedded.Instance

/-!
# Running code on the action machine

The actions of code are run in order, each with the result of the one before it; code that has
run to its end has the result of the last one, and code that was stopped has none. Calling a
function object calls back into the embedding, and so does importing a module that is not yet
loaded, which runs its loader.

A loader may import again. Every load under way has a loader slot of its own, as a module that
is being loaded has its space already and is not loaded once more; so loads are never nested
deeper than there are slots (`load`).

* `runActions`: runs actions;
* `importWith`: imports a module;
* `machine`: the action machine with all of its operations, and `engine`, its instances.
-/

namespace LedBoard.ActionMachine

open Embedded (Address Slot)

/-- What acts on the world of the machine. -/
abbrev Act := Embedded.Act State

/-- Does what only the machine is changed by. -/
abbrev onMachine {α : Type} (op : StateM State α) : Act α := Embedded.onLibrary op

/-- Raises an exception, and stops. -/
def fail {α : Type} (a : Address) (className message : String) : Act (Option α) := do
  onMachine (raise a className message)
  return none

/-! ## Importing -/

/-- Starts the loading of a module in a space of its own. -/
def enter (name : String) (c : Context) : Context :=
  { c with spaces := c.spaces.bind name .empty, loading := name :: c.loading }

/-- Ends the innermost loading. -/
def leave (c : Context) : Context := { c with loading := c.loading.tail }

/-- Takes away the space of a module that could not be loaded, and raises an exception unless
    one is pending. -/
def discard (name : String) (c : Context) : Context :=
  let c := { c with spaces := c.spaces.unbind name }
  if c.pending.isSome then c
  else c.raise "ImportError" (Text.encode ("cannot load " ++ name))

/-- Binds a module in the current space. -/
def bindModule (a : Address) (name : String) : Act (Option Object) := do
  onMachine (update a fun c => c.bind c.current name (.module name))
  return some (.module name)

/-- Imports a module, which `load` loads if it has no space yet. -/
def importWith (load : Address → Slot → Act Bool) (a : Address) (name : String) :
    Act (Option Object) := do
  onMachine (noted a (.importModule name))
  if (← onMachine (ask a fun _ c => c.spaces name)).isSome then bindModule a name
  else
    match ← onMachine (ask a fun _ c => c.loaders name) with
    | none => fail a "ImportError" ("no module " ++ name)
    | some slot =>
      onMachine (update a (enter name))
      let loaded ← load a slot
      onMachine (update a leave)
      if loaded then bindModule a name
      else
        onMachine (update a (discard name))
        return none

/-- Runs the loader of a slot, within which loads may be nested `depth` deep. -/
def load : (depth : Nat) → Address → Slot → Act Bool
  | 0, _, _ => pure false
  | depth + 1, a, slot => Embedded.loadModule library (importWith (load depth)) a slot

/-- Imports a module. -/
def importModule : Address → String → Act (Option Object) :=
  importWith (load Embedded.loaderSlots)

/-! ## Calling -/

/-- Calls an object, saying that there are so many arguments. -/
def callWith (a : Address) (callee : Object) (args : List Object) (count : Int) :
    Act (Option Object) := do
  match callee with
  | .function _ ticket =>
    onMachine (update a fun c => { c with called := some ticket })
    Embedded.invoke library a args count
  | .repr =>
    match (args.headD .none).representation with
    | .ok o => return some o
    | .error message => fail a "RuntimeError" message
  | _ => fail a "TypeError" "not callable"

/-- Calls an object. -/
def call (a : Address) (callee : Object) (args : List Object) : Act (Option Object) :=
  callWith a callee args args.length

/-! ## Actions -/

/-- The object at a path. -/
def get (a : Address) (path : String) : Act (Option Object) := do
  match ← onMachine (ask a fun faults c => c.resolve faults path) with
  | some o => return some o
  | none => fail a "NameError" path

/-- Prints, if the context can print. -/
def print (a : Address) (octets : Option Text.Octets) (length : Int) : Act Unit := do
  match ← onMachine (ask a fun _ c => c.print) with
  | some f => Embedded.onHost (f octets length)
  | none => pure ()

/-- Runs an action after one with the result `last`. -/
def Action.run (a : Address) (last : Object) : Action → Act (Option Object)
  | .print octets length => do
    ActionMachine.print a (some octets) (length.getD octets.length)
    return some last
  | .printNothing => do
    ActionMachine.print a none 1
    return some last
  | .value o => return some o
  | .stop => return none
  | .get path => ActionMachine.get a path
  | .set name => do
    onMachine (update a (·.bind ownSpace name last))
    return some last
  | .call path args count => do
    match ← ActionMachine.get a path with
    | some callee => callWith a callee args (count.getD args.length)
    | none => return none
  | .importModule name => ActionMachine.importModule a name
  | .raise className message => do
    onMachine (update a (·.raise className message))
    return none

/-- Runs actions in order, up to one that has no result. -/
def runActions (a : Address) : List Action → (last : Object) → Act (Option Object)
  | [], last => pure (some last)
  | action :: rest, last => do
    match ← action.run a last with
    | some o => runActions a rest o
    | none => return none

/-- Runs code that was read, if any was. -/
def runCode (a : Address) (actions : Option (List Action)) : Act (Option Object) :=
  match actions with
  | some actions => runActions a actions .none
  | none => fail a "SyntaxError" "invalid syntax"

/-! ## The machine -/

/-- The action machine. -/
def machine : Embedded.Machine State Object where
  toLibrary := library
  importModule := importModule
  call := call
  execute a code sourceName := do
    onMachine (noted a (.execute sourceName))
    return (← runCode a ((Code.ofText? code).map Code.actions)).isSome
  executeExpression a code sourceName := do
    onMachine (noted a (.executeExpression sourceName))
    runCode a (Code.ofText? code >>= Code.expression?)

/-- The instances of the action machine. -/
def engine : Engine Host (Embedded.Shared State) (Embedded.Instance Object) := machine.engine

end LedBoard.ActionMachine
