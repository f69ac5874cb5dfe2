import LedBoard.Embedded.Instance
import LedBoard.Proofs.Simulation

/-!
# What is asked of a machine

To see how the embedding uses a machine, whatever this does, a library can keep a log of what is
asked of it: its operations do what they did, and put down what they were asked and, where it
matters, what they answered. Only what the embedding asks is logged; what the machine does of
itself is its own affair.

* `Request`: what is asked, each of a context by its address;
* `Library.recorded`: the library that keeps a log;
* `references`, `tickets`: the references taken and given back, and the tickets of the function
  objects that were made, in the order of the log.
-/

namespace LedBoard.Embedded

/-- What the embedding asks of a machine whose objects are of type `O`. -/
inductive Request (O : Type)
  | createContext (answer : Option Address)
  | destroyContext (a : Address)
  | getGlobal (a : Address) (name : String) (answer : Option O)
  | setGlobal (a : Address) (name : String) (o : O)
  | incRef (a : Address) (o : O)
  | decRef (a : Address) (o : O)
  | newFunction (a : Address) (ticket : Ticket) (name : String) (answer : Option O)
  | functionTicket (a : Address) (answer : Option Ticket)
  | registerModule (a : Address) (name : String) (slot : Slot)
  | importModule (a : Address) (name : String)
  | call (a : Address) (callee : O) (args : List O)
  | execute (a : Address) (code : String)
  | executeExpression (a : Address) (code : String)
  | compileExpression (a : Address) (code : String)
  | getException (a : Address) (answer : Option O)
  | clearException (a : Address)
  | errorMessage (a : Address)
  /-- An object was made of a value. -/
  | newObject (a : Address) (v : Value)
  | raiseArgumentCount (a : Address) (given expected : Int32)
  | raiseArgumentType (a : Address) (index : Int32) (expected : String)
  | raiseClass (a : Address) (c : O) (message : String)
  deriving DecidableEq

/-- What happens to a reference to an object. -/
inductive Reference (O : Type)
  | taken (o : O)
  | given (o : O)
  deriving DecidableEq

namespace Request

variable {O : Type}

/-- The context that a live context is asked of: neither its creation nor its end. -/
def within? : Request O → Option Address
  | .createContext _ | .destroyContext _ => none
  | .getGlobal a .. | .setGlobal a .. | .incRef a _ | .decRef a _ | .newFunction a ..
  | .functionTicket a _ | .registerModule a .. | .importModule a _ | .call a .. | .execute a _
  | .executeExpression a _ | .compileExpression a _ | .getException a _ | .clearException a
  | .errorMessage a | .newObject a _ | .raiseArgumentCount a .. | .raiseArgumentType a ..
  | .raiseClass a .. => some a

/-- The context that something is asked of, or that it gave rise to. -/
def address? : Request O → Option Address
  | .createContext answer => answer
  | .destroyContext a => some a
  | r => r.within?

/-- What becomes of a reference. -/
def reference? : Request O → Option (Reference O)
  | .incRef _ o => some (.taken o)
  | .decRef _ o => some (.given o)
  | _ => none

/-- The ticket of a function object that was made. -/
def ticket? : Request O → Option Ticket
  | .newFunction _ ticket _ (some _) => some ticket
  | _ => none

/-- What is asked of a live context is about this one. -/
theorem address?_of_within {r : Request O} {a : Address} (h : r.within? = some a) :
    r.address? = some a := by
  cases r with
  | createContext answer => cases h
  | destroyContext b => cases h
  | _ => exact h

end Request

variable {L O α β : Type}

/-- What was asked of a context. -/
def requestsOn (a : Address) (log : List (Request O)) : List (Request O) :=
  log.filter (·.address? = some a)

/-- What became of references, in order. -/
def references (log : List (Request O)) : List (Reference O) := log.filterMap Request.reference?

theorem references_append (xs ys : List (Request O)) :
    references (xs ++ ys) = references xs ++ references ys := List.filterMap_append

/-- The tickets of the function objects that were made, in order. -/
def tickets (log : List (Request O)) : List Ticket := log.filterMap Request.ticket?

/-! ## The log -/

/-- What a machine keeps, with a log beside it. -/
structure Recorded (L O : Type) where
  inner : L
  log : List (Request O) := []

/-- The operation that puts down what was asked. -/
def record (request : α → Request O) (op : StateM L α) : StateM (Recorded L O) α := fun s =>
  ((op s.inner).1, ⟨(op s.inner).2, s.log ++ [request (op s.inner).1]⟩)

/-- Puts down what is asked before it is done. -/
def note (request : Request O) : Act (Recorded L O) Unit :=
  onLibrary (record (fun _ => request) (pure ()))

/-- The library that keeps a log. -/
def Library.recorded (lib : Library L O) : Library (Recorded L O) O where
  defaultConfig := lib.defaultConfig
  createContext config := record .createContext (lib.createContext config)
  destroyContext a := record (fun _ => .destroyContext a) (lib.destroyContext a)
  getGlobal a name := record (.getGlobal a name) (lib.getGlobal a name)
  setGlobal a name o := record (fun _ => .setGlobal a name o) (lib.setGlobal a name o)
  incRef a o := record (fun _ => .incRef a o) (lib.incRef a o)
  decRef a o := record (fun _ => .decRef a o) (lib.decRef a o)
  newFunction a ticket name := record (.newFunction a ticket name) (lib.newFunction a ticket name)
  functionTicket a := record (.functionTicket a) (lib.functionTicket a)
  registerModule a name slot :=
    record (fun _ => .registerModule a name slot) (lib.registerModule a name slot)
  compileExpression a code sourceName :=
    record (fun _ => .compileExpression a code) (lib.compileExpression a code sourceName)
  getException a := record (.getException a) (lib.getException a)
  clearException a := record (fun _ => .clearException a) (lib.clearException a)
  errorMessage a := record (fun _ => .errorMessage a) (lib.errorMessage a)
  isInstance := lib.isInstance
  isNone := lib.isNone
  isBool := lib.isBool
  isInt := lib.isInt
  isNumber := lib.isNumber
  isString := lib.isString
  getBool := lib.getBool
  getInt := lib.getInt
  getFloat := lib.getFloat
  getString := lib.getString
  newNone a := record (fun _ => .newObject a .none) (lib.newNone a)
  newBool a b := record (fun _ => .newObject a (.bool b)) (lib.newBool a b)
  newInt a n := record (fun _ => .newObject a (.int n)) (lib.newInt a n)
  newFloat a x := record (fun _ => .newObject a (.float x)) (lib.newFloat a x)
  newString a s := record (fun _ => .newObject a (.str s)) (lib.newString a s)
  raiseArgumentCount a given expected :=
    record (fun _ => .raiseArgumentCount a given expected) (lib.raiseArgumentCount a given expected)
  raiseArgumentType a index expected :=
    record (fun _ => .raiseArgumentType a index expected) (lib.raiseArgumentType a index expected)
  raiseClass a c message := record (fun _ => .raiseClass a c message) (lib.raiseClass a c message)

/-! ## The world with a log -/

namespace World

/-- What was asked of the machine so far. -/
def log (w : World (Recorded L O)) : List (Request O) := w.1.library.log

/-- The world after requests, which leave the machine as `inner` says. -/
def asked (w : World (Recorded L O)) (inner : L) (xs : List (Request O)) : World (Recorded L O) :=
  (⟨w.1.tables, ⟨inner, w.log ++ xs⟩⟩, w.2)

/-- Where nothing is asked the world stays. -/
theorem asked_nil (w : World (Recorded L O)) : w.asked w.1.library.inner [] = w := by
  rw [asked, List.append_nil]
  rfl

/-- Requests one after the other are logged in this order. -/
theorem asked_asked (w : World (Recorded L O)) (inner inner' : L) (xs ys : List (Request O)) :
    (w.asked inner xs).asked inner' ys = w.asked inner' (xs ++ ys) := by
  rw [asked, asked, asked, ← List.append_assoc]
  rfl

/-- The world where a context has another table, or none. -/
def withTable (w : World L) (a : Address) (t : Option Table) : World L :=
  (⟨match t with
    | some t => w.1.tables.bind a t
    | none => w.1.tables.unbind a, w.1.library⟩, w.2)

theorem withTable_self (w : World L) (a : Address) (t : Option Table) :
    (w.withTable a t).1.tables a = t := by
  cases t with
  | none => exact w.1.tables.unbind_self a
  | some t => exact w.1.tables.bind_self a t

/-- The tables of the other contexts stay. -/
theorem withTable_ne (w : World L) {a b : Address} (h : b ≠ a) (t : Option Table) :
    (w.withTable a t).1.tables b = w.1.tables b := by
  cases t with
  | none => exact w.1.tables.unbind_ne h
  | some t => exact w.1.tables.bind_ne h t

end World

/-- An operation that is put down changes the machine as it does, and makes the log longer by
    itself. -/
theorem onLibrary_record (request : α → Request O) (op : StateM L α) (w : World (Recorded L O)) :
    onLibrary (record request op) w = .ok ((op w.1.library.inner).1,
      w.asked (op w.1.library.inner).2 [request (op w.1.library.inner).1]) := rfl

/-- The same, where it is known what the operation does. -/
theorem onLibrary_record_of_eq {request : α → Request O} {op : StateM L α}
    {w : World (Recorded L O)} {r : α} {inner : L} (h : op w.1.library.inner = (r, inner)) :
    onLibrary (record request op) w = .ok (r, w.asked inner [request r]) := by
  rw [onLibrary_record, h]

/-- The next request is logged behind those before. -/
theorem onLibrary_record_asked (request : α → Request O) (op : StateM L α)
    (w : World (Recorded L O)) (inner : L) (xs : List (Request O)) :
    onLibrary (record request op) (w.asked inner xs) =
      .ok ((op inner).1, w.asked (op inner).2 (xs ++ [request (op inner).1])) := by
  rw [onLibrary_record, World.asked_asked]
  rfl

theorem onLibrary_bind (m : StateM L α) (f : α → StateM L β) :
    onLibrary (m >>= f) = onLibrary m >>= fun r => onLibrary (f r) := rfl

/-- Looking up a table changes nothing. -/
theorem table?_of_eq {a : Address} {w : World L} {t : Option Table} (h : w.1.tables a = t) :
    table? a w = .ok (t, w) := by
  rw [← h]
  rfl

theorem setTable_apply (a : Address) (t : Option Table) (w : World L) :
    setTable a t w = .ok ((), w.withTable a t) := by
  cases t <;> rfl

end LedBoard.Embedded
