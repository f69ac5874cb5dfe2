import LedBoard.ActionMachine.Object

/-!
# Contexts of the action machine

A context has spaces of names, one of its own and one for every module loaded; the modules that
it is loading, one within the other; the loaders it may use; at most one pending exception; and
a count of the references that the embedding holds.

* `Context.lookup`: what a name stands for in a space;
* `Context.resolve`: what a path of names stands for.
-/

namespace LedBoard.ActionMachine

open Embedded (Ticket Slot)

/-- An exception that was raised and not yet cleared. -/
structure Pending where
  className : String
  message : Text.Octets
  deriving DecidableEq, Repr

/-- The exception as text; a NUL octet would end it, and is left out. -/
def Pending.text (p : Pending) : Text.Octets :=
  let message := if p.message.isEmpty then [] else Text.encode ": " ++ p.message
  (Text.encode p.className ++ message ++ Text.encode "\n").filter (· != 0)

/-- The name of the program's own space. -/
def ownSpace : String := ""

/-- A context. -/
structure Context where
  print : Option Embedded.PrintFunction
  /-- The spaces by name. -/
  spaces : Bindings String (Bindings String Object) := Bindings.empty.bind ownSpace .empty
  /-- The modules being loaded, the innermost first. -/
  loading : List String := []
  /-- The slots of the modules that can be imported. -/
  loaders : Bindings String Slot := .empty
  pending : Option Pending := none
  references : Int := 0
  /-- The ticket of the function being called. -/
  called : Option Ticket := none

/-- What the machine is made to fail at. -/
structure Faults where
  /-- The number of the context that cannot be created. -/
  create : Option Nat := none
  /-- The names that are not found wherever they are looked up. -/
  missing : List String := []
  /-- The name of the function that no object is made of. -/
  newFunction : Option String := none
  /-- Functions do not find their tickets. -/
  ticket : Bool := false
  /-- Exceptions have no text. -/
  message : Bool := false
  deriving DecidableEq, Repr

/-- What a program finds bound in its own space, unless it binds the name itself. -/
def predefined? (name : String) : Option Object :=
  if name = "repr" then some .repr
  else if builtinClasses.contains name then some (.exceptionClass name)
  else none

namespace Context

/-- The space where names are bound: that of the module being loaded, or else the program's
    own. -/
def current (c : Context) : String := c.loading.headD ownSpace

/-- What a name stands for in a space. -/
def lookup (c : Context) (faults : Faults) (space name : String) : Option Object :=
  if faults.missing.contains name then none
  else
    match c.spaces space >>= (· name) with
    | some o => some o
    | none => if space = ownSpace then predefined? name else none

/-- What a path of names stands for: the first in the program's own space, each further one in
    the space of the module found before it. -/
def resolve (c : Context) (faults : Faults) (path : String) : Option Object :=
  match path.splitOn "." with
  | [] => none
  | first :: rest => rest.foldl
      (fun found name => match found with
        | some (.module m) => c.lookup faults m name
        | _ => none)
      (c.lookup faults ownSpace first)

/-- Binds a name in a space. -/
def bind (c : Context) (space name : String) (o : Object) : Context :=
  { c with spaces := c.spaces.bind space (((c.spaces space).getD .empty).bind name o) }

/-- Raises an exception, in place of one that was pending. -/
def raise (c : Context) (className : String) (message : Text.Octets) : Context :=
  { c with pending := some ⟨className, message⟩ }

end Context

end LedBoard.ActionMachine
