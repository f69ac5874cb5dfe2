import LedBoard.Embedded.Binding

/-!
# Interpreters in a machine

An instance is a context of an embedded machine. With it go a reference to the class
`SystemExit`, taken when it is created and given back when it is let go of, and a table, which
holds its modules and native functions for exactly as long.

* `engine`: the operations of these instances as an `Engine`;
* `completion`: how a run ended. A pending exception decides; otherwise the value of an
  expression is shown by the function `repr` of the script, and a reference to the value is held
  while that runs.
-/

namespace LedBoard.Embedded

variable {L O : Type}

/-- An interpreter in a machine. -/
structure Instance (O : Type) where
  address : Address
  /-- The class of the exceptions that ask to end, if there is one. -/
  systemExit : Option O

/-- What sources are called in the machine. -/
def sourceName : String := "<stdin>"

/-- The settings of the context of a new instance: those of the library, but for the access to the
    system and, if one is given, the print function. -/
def Library.contextConfig (lib : Library L O) (config : EngineConfig Host) : ContextConfig :=
  { lib.defaultConfig with
    osAccess := config.enableOsAccess
    print := (config.print.map printTo).or lib.defaultConfig.print }

namespace Machine

variable (machine : Machine L O)

/-! ## Beginning and end -/

/-- Creates an instance. -/
def create (config : EngineConfig Host) : Act L (Except EngineError (Instance O)) := do
  match ← onLibrary (machine.createContext (machine.contextConfig config)) with
  | none => return .error .createFailed
  | some address =>
    let systemExit ← onLibrary (machine.getGlobal address "SystemExit")
    if let some c := systemExit then onLibrary (machine.incRef address c)
    setTable address (some {})
    onHost (Host.emit · .contextCreated)
    return .ok { address, systemExit }

/-- Lets go of an instance. -/
def drop (i : Instance O) : Act L Unit := do
  if let some c := i.systemExit then onLibrary (machine.decRef i.address c)
  onLibrary (machine.destroyContext i.address)
  setTable i.address none
  onHost (Host.emit · .contextDestroyed)

/-! ## Functions and modules -/

/-- Binds a native function. -/
def bindGlobal (i : Instance O) (name : String) (f : Native Host) :
    Act L (Except EngineError Unit) := do
  if ← bindFunction machine.toLibrary i.address name f then return .ok ()
  else return .error (.function name)

/-- Makes a module importable, if a loader is left for it. -/
def addModule (i : Instance O) (m : Module Host) :
    Act L (Except EngineError Unit) := do
  if Text.holdsNul m.name then return .error (.module m.name)
  match ← table? i.address with
  | none => return .error (.module m.name)
  | some t =>
    if t.modules.length < loaderSlots then
      setTable i.address (some { t with modules := t.modules ++ [m] })
      onLibrary (machine.registerModule i.address m.name t.modules.length)
      return .ok ()
    else return .error (.module m.name)

/-! ## Running -/

/-- The pending exception as text; ill-formed parts are replaced. -/
def errorText (i : Instance O) : Act L String := do
  return ((← onLibrary (machine.errorMessage i.address)).map Text.decodeLossy).getD ""

/-- How the run of an expression with this value ended. -/
def shown (i : Instance O) (o : O) : Act L Completion := do
  match ← onLibrary (machine.getGlobal i.address "repr") with
  | none => return .valueError (← machine.errorText i)
  | some repr =>
    match ← machine.call i.address repr [o] with
    | some text => return .value (machine.textOf text)
    | none => return .valueError (← machine.errorText i)

/-- How a run ended that gave this value, if any. -/
def completion (i : Instance O) (value : Option O) : Act L Completion := do
  match ← onLibrary (machine.getException i.address) with
  | some e =>
    if i.systemExit.any (machine.isInstance e) then return .exit
    else return .error (← machine.errorText i)
  | none =>
    match value with
    | none => return .noValue
    | some o =>
      if machine.isNone o then return .noValue
      onLibrary (machine.incRef i.address o)
      let c ← machine.shown i o
      onLibrary (machine.decRef i.address o)
      return c

/-- How a run ends whose source cannot be handed over. -/
def refused : Completion := .error (EngineError.message .nulInSource ++ "\n")

/-- Tells whether a source is one expression. -/
def compilesAsExpression (i : Instance O) (code : String) : Act L Bool := do
  if Text.holdsNul code then return false
  return (← onLibrary (machine.compileExpression i.address code sourceName)).isSome

/-- Runs a source as an expression. -/
def evaluate (i : Instance O) (code : String) : Act L Completion := do
  if Text.holdsNul code then return refused
  machine.completion i (← machine.executeExpression i.address code sourceName)

/-- Runs a source as statements. -/
def runStatements (i : Instance O) (code : String) : Act L Completion := do
  if Text.holdsNul code then return refused
  let _ ← machine.execute i.address code sourceName
  machine.completion i none

/-! ## The engine -/

/-- The operations of instances in a machine. -/
def engine : Engine Host (Shared L) (Instance O) where
  create := machine.create
  setGlobalFunction i name f := do return (← machine.bindGlobal i name f, i)
  registerModule i m := do return (← machine.addModule i m, i)
  clearException i := do onLibrary (machine.clearException i.address); return i
  compilesAsExpression i code := do return (← machine.compilesAsExpression i code, i)
  evaluate i code := do return (← machine.evaluate i code, i)
  execute i code := do return (← machine.runStatements i code, i)
  drop := machine.drop

end Machine

end LedBoard.Embedded
