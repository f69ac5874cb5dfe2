import LedBoard.Bindings
import LedBoard.Engine
import LedBoard.Host.Basic
import LedBoard.Text.Utf8

/-!
# Embedded machines

A machine that runs scripts can be embedded: it is a library of operations on contexts, each of
which is known by its address. The embedding hands it texts and objects of the machine's own
making; an operation that fails answers with nothing and may leave an exception pending in its
context.

The operations are of two sorts. Those of a `Library` change only what the machine itself keeps.
Those that a `Machine` has besides run code, and code may call back: it may run a loader of the
embedding, call a native function, or print. They therefore act on the whole `World`: what the
machine keeps, the tables of the embedding, and the host.

* `Table`: what the embedding keeps about a live context, since the machine can only hold on to
  numbers: the modules, by the slots of their loaders, and the native functions, by tickets.
-/

namespace LedBoard.Embedded

/-- The address of a context. -/
abbrev Address := Nat

/-- One of the fixed loaders, which is all that the machine can be given to load a module. -/
abbrev Slot := Nat

/-- The number under which a native function is kept. A function object carries it. -/
abbrev Ticket := Nat

/-- How many loaders there are. -/
def loaderSlots : Nat := 8

/-- Receives what a context prints: a text, which may be missing, and a number of octets. -/
abbrev PrintFunction := Option Text.Octets → Int → Host → Host

/-- The settings of a new context. -/
structure ContextConfig where
  osAccess : Bool
  maxRecursion : Nat
  maxCollectionSize : Nat
  collectorFactor : Nat
  argumentCount : Nat
  print : Option PrintFunction

/-- The operations that change only what the machine itself keeps, an `L`; its objects are of
    type `O`. -/
structure Library (L O : Type) where
  /-- The settings that a context has unless others are asked for. -/
  defaultConfig : ContextConfig
  createContext : ContextConfig → StateM L (Option Address)
  destroyContext : Address → StateM L Unit
  /-- What a name stands for in the program's own space. -/
  getGlobal : Address → String → StateM L (Option O)
  /-- Binds a name in the module being loaded, or else in the program's own space. -/
  setGlobal : Address → String → O → StateM L Unit
  incRef : Address → O → StateM L Unit
  decRef : Address → O → StateM L Unit
  /-- Makes a function object that carries a ticket. -/
  newFunction : Address → Ticket → (name : String) → StateM L (Option O)
  /-- The ticket of the function object that is being called. -/
  functionTicket : Address → StateM L (Option Ticket)
  /-- Makes a module importable, which the loader of a slot will load. -/
  registerModule : Address → String → Slot → StateM L Unit
  /-- Compiles a source as one expression and makes an object of it. -/
  compileExpression : Address → (code sourceName : String) → StateM L (Option O)
  /-- The pending exception. -/
  getException : Address → StateM L (Option O)
  clearException : Address → StateM L Unit
  /-- The pending exception as text. -/
  errorMessage : Address → StateM L (Option Text.Octets)
  /-- The object is an instance of the class. -/
  isInstance : (object objectClass : O) → Bool
  isNone : O → Bool
  isBool : O → Bool
  isInt : O → Bool
  isNumber : O → Bool
  isString : O → Bool
  getBool : O → Bool
  getInt : O → Int64
  getFloat : O → Binary64
  /-- The octets of a string; there may be none to show. -/
  getString : O → Option Text.Octets
  newNone : Address → StateM L (Option O)
  newBool : Address → Bool → StateM L (Option O)
  newInt : Address → Int64 → StateM L (Option O)
  newFloat : Address → Binary64 → StateM L (Option O)
  newString : Address → String → StateM L (Option O)
  raiseArgumentCount : Address → (given expected : Int32) → StateM L Unit
  raiseArgumentType : Address → (index : Int32) → (expected : String) → StateM L Unit
  /-- Raises an exception of a class. -/
  raiseClass : Address → O → (message : String) → StateM L Unit

/-! ## The world of a machine -/

/-- What the embedding keeps about a live context. -/
structure Table where
  /-- The modules, each at the place of its slot. -/
  modules : List (Module Host) := []
  /-- The native functions, each at the place of its ticket. -/
  natives : List (Native Host) := []

/-- What the contexts share: the tables, and what the machine keeps. -/
structure Shared (L : Type) where
  tables : Bindings Address Table := .empty
  library : L

/-- Everything that code can act on. -/
abbrev World (L : Type) := Shared L × Host

/-- What acts on the world. -/
abbrev Act (L : Type) := Run (World L)

/-- The operations of a machine: those of its library, and those that run code. -/
structure Machine (L O : Type) extends Library L O where
  importModule : Address → String → Act L (Option O)
  call : Address → O → List O → Act L (Option O)
  /-- Runs a source as statements, and tells whether it came to its end. -/
  execute : Address → (code sourceName : String) → Act L Bool
  /-- Runs a source as one expression. -/
  executeExpression : Address → (code sourceName : String) → Act L (Option O)

variable {L α : Type}

/-- Does what only the machine keeps is changed by. -/
def onLibrary (op : StateM L α) : Act L α := fun (shared, h) =>
  let (a, library) := op shared.library
  .ok (a, ({ shared with library }, h))

/-- Does what only the host is changed by. -/
def onHost (f : Host → Host) : Act L Unit := Run.onHost fun h => ((), f h)

/-- The table of a context, which it has as long as it lives. -/
def table? (a : Address) : Act L (Option Table) := fun w => .ok (w.1.tables a, w)

/-- Gives a context a table, or takes it away. -/
def setTable (a : Address) (t : Option Table) : Act L Unit := fun (shared, h) =>
  let tables := match t with
    | some t => shared.tables.bind a t
    | none => shared.tables.unbind a
  .ok ((), ({ shared with tables }, h))

end LedBoard.Embedded
