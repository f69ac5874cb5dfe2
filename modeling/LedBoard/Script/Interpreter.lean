import LedBoard.Bindings
import LedBoard.Engine
import LedBoard.Script.Object
import LedBoard.Script.Program

/-!
# Running scripts

An interpreter holds the names that its scripts have bound, the modules they can import, and
the exception that the latest failing run left behind. Evaluating an expression reads the names
and changes nothing but the host, through native functions and through what is printed; running
a statement may bind names. An exception that is raised ends the run; what was done before it
stays done.

Integers are of 64 bits with a sign: sum, difference and product wrap around, a quotient is cut
toward zero. The one quotient and the one negation that do not fit crash.

* `eval`: evaluates an expression;
* `Interpreter.runAll`: runs statements up to the first exception;
* `Interpreter.evaluate`, `Interpreter.execute`: run a source, and tell how the run ended;
* `engine`: the operations of these interpreters as an `Engine`.
-/

namespace LedBoard.Script

/-- An interpreter whose native functions act on a host `σ`. -/
structure Interpreter (σ : Type) where
  globals : Bindings String (Object σ) := .empty
  modules : Bindings String (Module σ) := .empty
  /-- The exception that the latest failing run left behind, until it is cleared. -/
  pending : Option Exception := none
  /-- Receives what scripts print. -/
  print : Option (String → σ → σ) := none
  osAccess : Bool := false
  /-- How many sources have been run. -/
  runs : Nat := 0

variable {σ : Type}

/-- What can raise an exception. -/
abbrev Raising (σ : Type) := ExceptT Exception (Run σ)

/-- Passes on what succeeds without the host. -/
def ofExcept {α : Type} : Except Exception α → Raising σ α
  | .ok a => pure a
  | .error e => throw e

namespace Interpreter

variable (i : Interpreter σ)

/-- What every script finds bound, unless it binds the name itself. -/
def predefined? (name : String) : Option (Object σ) :=
  if name = "None" then some .none
  else if name = "True" then some (.bool true)
  else if name = "False" then some (.bool false)
  else if name = "print" then some (.builtin .print)
  else if name = "exit" then some (.builtin .exit)
  else if name = "unprintable" then some .unprintable
  else (ExceptionClass.ofName? name).map .exceptionClass

/-- What a name stands for. -/
def lookup (name : String) : Except Exception (Object σ) :=
  match i.globals name with
  | some o => .ok o
  | none =>
    match predefined? name with
    | some o => .ok o
    | none => .error ⟨.nameError, "name '" ++ name ++ "' is not defined"⟩

/-- The module of a name. -/
def moduleOf (name : String) : Except Exception (Module σ) :=
  match i.modules name with
  | some m => .ok m
  | none => .error ⟨.importError, "No module named '" ++ name ++ "'"⟩

/-- The attribute of a module: one of its functions, or else one of its imports. -/
def member (m : Module σ) (name : String) : Except Exception (Object σ) :=
  match m.function? name with
  | some f => .ok (.function name f)
  | none =>
    if m.imports.contains name then .ok (.module name)
    else .error ⟨.attributeError,
      "module '" ++ m.name ++ "' has no attribute '" ++ name ++ "'"⟩

/-! ## Operations -/

/-- The integer of the other sign. -/
def negate : Object σ → Raising σ (Object σ)
  | .int n => if n = Int64.minValue then throwThe Crash .overflow else pure (.int (-n))
  | other => throw ⟨.typeError, "bad operand type for unary -: '" ++ other.typeName ++ "'"⟩

/-- An operation on integers. -/
def arithmetic (op : Operator) (a b : Int64) : Raising σ Int64 :=
  match op with
  | .add => pure (a + b)
  | .sub => pure (a - b)
  | .mul => pure (a * b)
  | .div =>
    if b = 0 then throw ⟨.zeroDivisionError, "division by zero"⟩
    else if a = Int64.minValue ∧ b = -1 then throwThe Crash .overflow
    else pure (a / b)

/-- An operation on two operands: arithmetic on integers, and the joining of texts. -/
def operate (op : Operator) (a b : Object σ) : Raising σ (Object σ) :=
  match op, a, b with
  | op, .int a, .int b => Object.int <$> arithmetic op a b
  | .add, .str a, .str b => pure (.str (a ++ b))
  | op, a, b => throw ⟨.typeError, "unsupported operand type(s) for " ++ op.sign ++ ": '" ++
      a.typeName ++ "' and '" ++ b.typeName ++ "'"⟩

/-- Prints a chunk. -/
def write (chunk : String) : Raising σ Unit :=
  match i.print with
  | some print => modify (print chunk)
  | none => pure ()

/-- Calls an object. -/
def call (callee : Object σ) (args : List (Object σ)) : Raising σ (Object σ) :=
  match callee with
  | .function _ f => do
    match ← f (args.map Object.toValue) |>.run with
    | .ok v => pure (Object.ofValue v)
    | .error e => throw (Exception.ofScriptError e)
  | .builtin .print => do
    let texts ← ofExcept (args.mapM Object.text)
    i.write (Text.joined " " texts ++ "\n")
    pure .none
  | .builtin .exit => throw ⟨.systemExit, ""⟩
  | .exceptionClass c => do
    let message ← match args with
      | [] => pure ""
      | arg :: _ => ofExcept arg.text
    pure (.exception ⟨c, message⟩)
  | other => throw ⟨.typeError, "'" ++ other.typeName ++ "' object is not callable"⟩

mutual

/-- The value of an expression. Operands, callees and arguments are evaluated from the left. -/
def eval : Expr → Raising σ (Object σ)
  | .int n => pure (.int n)
  | .str s => pure (.str s)
  | .name n => ofExcept (i.lookup n)
  | .neg e => do negate (← eval e)
  | .binary op left right => do
    let a ← eval left
    let b ← eval right
    operate op a b
  | .attr e name => do
    match ← eval e with
    | .module m => ofExcept (i.moduleOf m >>= (member · name))
    | other => throw ⟨.attributeError,
        "'" ++ other.typeName ++ "' object has no attribute '" ++ name ++ "'"⟩
  | .call callee args => do
    let f ← eval callee
    let values ← evalAll args
    i.call f values

/-- The values of expressions. -/
def evalAll : List Expr → Raising σ (List (Object σ))
  | [] => pure []
  | e :: rest => do
    let v ← eval e
    let vs ← evalAll rest
    pure (v :: vs)

end

/-! ## Statements -/

/-- The exception that raising an object raises. -/
def raised : Object σ → Exception
  | .exceptionClass c => ⟨c, ""⟩
  | .exception e => e
  | other =>
    ⟨.typeError, "exceptions must derive from BaseException, not " ++ other.typeName⟩

/-- The interpreter with a name bound. -/
def bind (name : String) (o : Object σ) : Interpreter σ :=
  { i with globals := i.globals.bind name o }

/-- Binds the functions of a module. -/
def bindFunctions (functions : List (String × Native σ)) : Interpreter σ :=
  functions.foldl (fun i (name, f) => i.bind name (.function name f)) i

/-- Binds the modules of the names, up to the first one that is not registered. -/
def bindModules : Interpreter σ → List String → Except Exception Unit × Interpreter σ
  | i, [] => (.ok (), i)
  | i, name :: rest =>
    match i.moduleOf name with
    | .ok _ => (i.bind name (.module name)).bindModules rest
    | .error e => (.error e, i)

/-- Runs a statement. -/
def run : Stmt → Run σ (Except Exception Unit × Interpreter σ)
  | .expr e => do
    match ← i.eval e |>.run with
    | .ok _ => pure (.ok (), i)
    | .error e => pure (.error e, i)
  | .assign target e => do
    match ← i.eval e |>.run with
    | .ok o => pure (.ok (), i.bind target o)
    | .error e => pure (.error e, i)
  | .importModule name =>
    match i.moduleOf name with
    | .ok _ => pure (.ok (), i.bind name (.module name))
    | .error e => pure (.error e, i)
  | .importAll name =>
    match i.moduleOf name with
    | .ok m => pure ((i.bindFunctions m.functions).bindModules m.imports)
    | .error e => pure (.error e, i)
  | .raise e => do
    match ← i.eval e |>.run with
    | .ok o => pure (.error (raised o), i)
    | .error e => pure (.error e, i)

/-- Runs statements up to the first exception. -/
def runAll : Interpreter σ → List Stmt → Run σ (Except Exception Unit × Interpreter σ)
  | i, [] => pure (.ok (), i)
  | i, s :: rest => do
    match ← i.run s with
    | (.ok (), i) => i.runAll rest
    | (.error e, i) => pure (.error e, i)

/-! ## Sources -/

/-- How a run ended whose result is given, and what it leaves behind. -/
def complete (result : Except Exception (Object σ)) : Completion × Interpreter σ :=
  match result with
  | .ok .none => (.noValue, i)
  | .ok o =>
    match o.repr with
    | .ok text => (.value text, i)
    | .error e => (.valueError e.text, { i with pending := some e })
  | .error e =>
    (if e.asksToExit then .exit else .error e.text, { i with pending := some e })

/-- Runs a source as an expression. -/
def evaluate (code : String) : Run σ (Completion × Interpreter σ) :=
  let i := { i with runs := i.runs + 1 }
  match expressionOf? code with
  | none => pure (i.complete (.error .badSource))
  | some e => do
    let result ← i.eval e |>.run
    pure (i.complete result)

/-- Runs a source as a program. -/
def execute (code : String) : Run σ (Completion × Interpreter σ) :=
  let i := { i with runs := i.runs + 1 }
  match programOf? code with
  | none => pure (i.complete (.error .badSource))
  | some statements => do
    let (result, i) ← i.runAll statements
    pure (i.complete (result.map fun _ => .none))

/-- The interpreter without the exception left behind. -/
def clearPending : Interpreter σ := { i with pending := none }

/-- Makes a module importable, in place of one of the same name. -/
def register (m : Module σ) : Interpreter σ := { i with modules := i.modules.bind m.name m }

end Interpreter

/-! ## The engine -/

/-- How many interpreters may be created: all, or as many as `limit` says. -/
structure Supply where
  created : Nat := 0
  limit : Option Nat := none
  deriving DecidableEq, Repr

/-- One more interpreter was asked for: whether it may be created. -/
def Supply.next (s : Supply) : Bool × Supply :=
  (s.limit.all (s.created < ·), { s with created := s.created + 1 })

/-- A new interpreter. -/
def Interpreter.create (config : EngineConfig σ) : Interpreter σ :=
  { print := config.print, osAccess := config.enableOsAccess }

/-- Acts on the host beside the supply. -/
def beside {κ α : Type} (act : Run σ α) : Run (κ × σ) α := fun (shared, h) =>
  match act h with
  | .ok (a, h) => .ok (a, (shared, h))
  | .error crash => .error crash

/-- The operations of script interpreters. -/
def engine : Engine σ Supply (Interpreter σ) where
  create config := fun (supply, h) =>
    let (allowed, supply) := supply.next
    .ok (if allowed then .ok (.create config) else .error .createFailed, (supply, h))
  setGlobalFunction i name f := pure (.ok (), i.bind name (.function name f))
  registerModule i m := pure (.ok (), i.register m)
  clearException i := pure i.clearPending
  compilesAsExpression i code := pure ((expressionOf? code).isSome, i)
  evaluate i code := beside (i.evaluate code)
  execute i code := beside (i.execute code)
  drop _ := pure ()

end LedBoard.Script
