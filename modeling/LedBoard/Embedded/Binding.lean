import LedBoard.Embedded.Crossing

/-!
# Native functions in a machine

A machine holds a native function as an object that carries a ticket; the function itself is
kept in the table of the context. Binding a function makes the object, binds it under its name
in whatever is being loaded, and only then files the function, under the ticket that the object
carries (`bindFunction`). When the machine calls the object, the ticket leads back to the
function (`invoke`).

A module is loaded when a script imports it for the first time: its functions are bound in the
order of their names, then its imports are imported in their order, and the first failure ends
the loading (`loadModule`). Importing may load further modules before it returns; the module
being loaded was read from the table before any of that.
-/

namespace LedBoard.Embedded

variable {L O : Type} (lib : Library L O)

/-! ## Binding -/

/-- Binds a native function under a name, and tells whether that could be done. -/
def bindFunction (a : Address) (name : String) (f : Native Host) : Act L Bool := do
  if Text.holdsNul name then return false
  let table ← table? a
  let ticket := (table.map (·.natives.length)).getD 0
  match ← onLibrary (lib.newFunction a ticket name) with
  | none => return false
  | some o =>
    onLibrary (lib.setGlobal a name o)
    if let some t := table then
      setTable a (some { t with natives := t.natives ++ [f] })
    return true

/-- Binds native functions in order, up to the first that cannot be bound. -/
def bindFunctions (a : Address) : List (String × Native Host) → Act L Bool
  | [] => pure true
  | (name, f) :: rest => do
    if ← bindFunction lib a name f then bindFunctions a rest else return false

/-! ## Calling -/

/-- The function filed under a ticket. -/
def native (a : Address) (ticket : Ticket) : Act L (Native Host) := do
  match (← table? a).bind (·.natives[ticket]?) with
  | some f => return f
  | none => throwThe Crash .lostFunction

/-- Calls a native function on the host. A crash stays within the call, and what the function did
    to the host before it crashed is lost with it, as there is no host behind a crash. No function
    of the board or of the console crashes, so of these everything is kept. -/
def guarded (call : Call Host Value) : Act L (Option (Except ScriptError Value)) :=
  fun (shared, h) =>
    match call.run h with
    | .ok (r, h) => .ok (some r, (shared, h))
    | .error _ => .ok (none, (shared, h))

/-- Calls the function behind the object being called, with the first `count` of the arguments. -/
def invoke (a : Address) (args : List O) (count : Int) : Act L (Option O) := do
  match ← onLibrary (lib.functionTicket a) with
  | none => return none
  | some ticket =>
    let f ← native a ticket
    match ← guarded (f ((args.take count.toNat).map lib.toValue)) with
    | some (.ok v) => onLibrary (lib.ofValue a v)
    | some (.error e) => onLibrary (lib.raise a e); return none
    | none =>
      onLibrary (lib.raiseNamed a "RuntimeError" "native function panicked")
      return none

/-! ## Loading -/

/-- Imports modules in order, up to the first that cannot be imported. -/
def importAll (importModule : Address → String → Act L (Option O)) (a : Address) :
    List String → Act L Bool
  | [] => pure true
  | name :: rest => do
    if Text.holdsNul name then return false
    match ← importModule a name with
    | some _ => importAll importModule a rest
    | none => return false

/-- Loads the module of a slot, and tells whether that could be done. -/
def loadModule (importModule : Address → String → Act L (Option O)) (a : Address)
    (slot : Slot) : Act L Bool := do
  match (← table? a).bind (·.modules[slot]?) with
  | none => return false
  | some m =>
    if ← bindFunctions lib a m.functions then importAll importModule a m.imports
    else return false

/-! ## Printing -/

/-- Hands what a context prints on as text, ill-formed parts replaced; what is missing or has no
    length is dropped. -/
def printTo (sink : String → Host → Host) : PrintFunction
  | some octets, n, h => if n ≤ 0 then h else sink (Text.decodeLossy (octets.take n.toNat)) h
  | none, _, h => h

end LedBoard.Embedded
