import LedBoard.Engine

/-!
# Planned interpreters

To watch how a session uses its interpreters, there are interpreters that run nothing: they
follow a plan, which says what each source prints and how its run ends, and what is to fail, and
they log every call that is made on them. The instances are numbered in the order in which they
were asked for.
-/

namespace LedBoard.Plan

/-- What the plan says about a source. -/
structure Reply where
  /-- The chunks that a run prints, empty ones included. -/
  prints : List String := []
  completion : Completion := .noValue
  /-- The source is an expression. -/
  isExpression : Bool := false

end Plan

/-- What planned interpreters are to do. -/
structure Plan where
  /-- The number of the instance that cannot be created. -/
  failCreate : Option Nat := none
  /-- Why it cannot be created. -/
  createError : EngineError := .createFailed
  /-- The name of a function that cannot be bound. -/
  failGlobal : Option String := none
  /-- The name of a module that cannot be registered. -/
  failModule : Option String := none
  /-- The sources that the plan knows. -/
  replies : List (String × Plan.Reply) := []

namespace Plan

/-- What the plan says about a source; about an unknown one nothing. -/
def reply (p : Plan) (code : String) : Reply := (p.replies.lookup code).getD {}

/-- A call on an instance. -/
inductive Call
  | create (osAccess print : Bool)
  | global (name : String)
  | module (name : String) (functions imports : List String)
  | clearException
  | compiles (code : String)
  | evaluate (code : String)
  | execute (code : String)
  deriving DecidableEq, Repr

/-- The call as text. -/
def Call.text : Call → String
  | .create osAccess print =>
    "create os_access=" ++ Text.truth osAccess ++ " print=" ++ Text.truth print
  | .global name => "global " ++ name
  | .module name functions imports =>
    "module " ++ name ++ " " ++ Module.quotedList functions ++ " " ++ Module.quotedList imports
  | .clearException => "clear_exception"
  | .compiles code => "compiles " ++ Text.quoted code
  | .evaluate code => "evaluate " ++ Text.quoted code
  | .execute code => "execute " ++ Text.quoted code

/-- What planned interpreters share: the plan, how many were asked for, and the calls made so
    far, each with the number of its instance. -/
structure Record where
  plan : Plan
  created : Nat := 0
  calls : Array (Nat × Call) := #[]

namespace Record

/-- A call was made. -/
def note (r : Record) (number : Nat) (c : Call) : Record :=
  { r with calls := r.calls.push (number, c) }

/-- The calls as text. -/
def lines (r : Record) : List String :=
  r.calls.toList.map fun (number, c) => Text.decimalNat number ++ " " ++ c.text

end Record

/-- A planned interpreter. -/
structure Instance (σ : Type) where
  number : Nat
  print : Option (String → σ → σ)

variable {σ : Type}

/-- Logs a call, and answers from the plan. -/
def noted {α : Type} (number : Nat) (c : Call) (answer : Plan → α) : Run (Record × σ) α :=
  fun (r, h) => .ok (answer r.plan, (r.note number c, h))

/-- Prints chunks. -/
def Instance.printAll (i : Instance σ) (chunks : List String) : Run (Record × σ) Unit :=
  Run.onHost fun h =>
    ((), match i.print with
      | some print => chunks.foldl (fun h chunk => print chunk h) h
      | none => h)

/-- Runs a source as the plan says. -/
def Instance.follow (i : Instance σ) (c : Call) (code : String) :
    Run (Record × σ) (Completion × Instance σ) := do
  let r ← noted i.number c (·.reply code)
  i.printAll r.prints
  return (r.completion, i)

/-- The operations of planned interpreters. -/
def engine : Engine σ Record (Instance σ) where
  create config := fun (r, h) =>
    let number := r.created
    let r : Record := { r.note number (.create config.enableOsAccess config.print.isSome) with
      created := number + 1 }
    if r.plan.failCreate = some number then .ok (.error r.plan.createError, (r, h))
    else .ok (.ok ⟨number, config.print⟩, (r, h))
  setGlobalFunction i name _ := do
    let fails ← noted i.number (.global name) (·.failGlobal == some name)
    return (if fails then .error (.function name) else .ok (), i)
  registerModule i m := do
    let fails ← noted i.number (.module m.name m.functionNames m.imports)
      (·.failModule == some m.name)
    return (if fails then .error (.module m.name) else .ok (), i)
  clearException i := noted i.number .clearException fun _ => i
  compilesAsExpression i code :=
    noted i.number (.compiles code) fun p => ((p.reply code).isExpression, i)
  evaluate i code := i.follow (.evaluate code) code
  execute i code := i.follow (.execute code) code
  drop _ := pure ()

end LedBoard.Plan
