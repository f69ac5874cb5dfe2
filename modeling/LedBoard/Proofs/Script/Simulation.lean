import LedBoard.Proofs.Simulation
import LedBoard.Script.Interpreter

/-!
# Interpreters on two hosts

What an interpreter does depends on the host only through its native functions and through what
receives its prints. So an interpreter on one host simulates one on another host if their native
functions and their prints do: they have the same objects under the names that a script mentions,
but for the native functions in them, and whatever they run they keep the relation of the hosts.

* `Object.Sim`, `Interpreter.Sim`: the relations;
* `Sim.eval`: the step over the trees of expressions;
* `Sim.run`, `Sim.runAll`: a statement, and by induction a whole program;
* `Sim.evaluate`, `Sim.execute`: the run of a source as an expression and as a program.
-/

namespace LedBoard.Script

variable {σ τ : Type} {R : σ → τ → Prop}

/-! ## Objects -/

section Objects

variable (N : String → Native σ → Native τ → Prop)

/-- The same objects, but for the native functions in them, which `N` relates. -/
inductive Object.Sim : Object σ → Object τ → Prop
  | none : Object.Sim .none .none
  | int (n : Int64) : Object.Sim (.int n) (.int n)
  | float (x : Binary64) : Object.Sim (.float x) (.float x)
  | bool (b : Bool) : Object.Sim (.bool b) (.bool b)
  | str (s : String) : Object.Sim (.str s) (.str s)
  | module (name : String) : Object.Sim (.module name) (.module name)
  | function (name : String) {f : Native σ} {g : Native τ} (h : N name f g) :
      Object.Sim (.function name f) (.function name g)
  | builtin (b : Builtin) : Object.Sim (.builtin b) (.builtin b)
  | exceptionClass (c : ExceptionClass) : Object.Sim (.exceptionClass c) (.exceptionClass c)
  | exception (e : Exception) : Object.Sim (.exception e) (.exception e)
  | foreign (typeName : String) : Object.Sim (.foreign typeName) (.foreign typeName)
  | unprintable : Object.Sim .unprintable .unprintable

namespace Object.Sim

variable {N} {a : Object σ} {b : Object τ}

theorem typeName (h : Object.Sim N a b) : a.typeName = b.typeName := by cases h <;> rfl

/-- Related objects have the same representation, as nothing of a native function but its name is
    shown. -/
theorem repr (h : Object.Sim N a b) : a.repr = b.repr := by
  cases h with
  | bool b => cases b <;> rfl
  | _ => rfl

theorem text (h : Object.Sim N a b) : a.text = b.text := by
  cases h with
  | str s => rfl
  | bool b => cases b <;> rfl
  | _ => rfl

theorem toValue (h : Object.Sim N a b) : a.toValue = b.toValue := by cases h <;> rfl

theorem ofValue (v : Value) : Object.Sim N (.ofValue v) (.ofValue v) := by
  cases v <;> constructor

theorem map_toValue {as : List (Object σ)} {bs : List (Object τ)}
    (h : List.Forall₂ (Object.Sim N) as bs) :
    as.map Object.toValue = bs.map Object.toValue := by
  induction h with
  | nil => rfl
  | cons hab _ ih => rw [List.map_cons, List.map_cons, hab.toValue, ih]

/-- The texts of related arguments are the same, and so is the first one that fails. -/
theorem mapM_text {as : List (Object σ)} {bs : List (Object τ)}
    (h : List.Forall₂ (Object.Sim N) as bs) : as.mapM Object.text = bs.mapM Object.text := by
  induction h with
  | nil => rfl
  | cons hab _ ih => rw [List.mapM_cons, List.mapM_cons, hab.text, ih]

theorem refl {N : String → Native σ → Native σ → Prop} (hN : ∀ name f, N name f f)
    (o : Object σ) : Object.Sim N o o := by
  cases o with
  | function name f => exact .function name (hN name f)
  | _ => constructor

end Object.Sim

/-! ## Interpreters -/

/-- Interpreters that know the same modules, and the same objects under the names in `seen`, but
    for the native functions in them, which `N` relates. -/
structure Interpreter.Bound (seen : String → Prop) (i : Interpreter σ) (j : Interpreter τ) :
    Prop where
  globals : ∀ n, seen n → Option.Rel (Object.Sim N) (i.globals n) (j.globals n)
  modules : ∀ n, Option.Rel (Module.Sim N) (i.modules n) (j.modules n)

variable (R) in
/-- Interpreters that do the same to related hosts: what they know is the same but for native
    functions, and these and the prints keep hosts related. -/
structure Interpreter.Sim (seen : String → Prop) (i : Interpreter σ) (j : Interpreter τ) :
    Prop extends Interpreter.Bound N seen i j where
  natives : ∀ {name : String} {f : Native σ} {g : Native τ}, N name f g → Native.Sim R f g
  write : ∀ chunk, Attempt.Sim R Eq (i.write chunk) (j.write chunk)
  pending : i.pending = j.pending
  runs : i.runs = j.runs

end Objects

mutual

/-- The names that an expression mentions. -/
def Expr.names : Expr → List String
  | .int _ | .str _ => []
  | .name n => [n]
  | .neg e | .attr e _ => e.names
  | .binary _ left right => left.names ++ right.names
  | .call callee args => callee.names ++ allNames args

/-- The names that expressions mention. -/
def Expr.allNames : List Expr → List String
  | [] => []
  | e :: rest => e.names ++ allNames rest

end

/-- The names that a statement reads. -/
def Stmt.names : Stmt → List String
  | .expr e | .assign _ e | .raise e => e.names
  | .importModule _ | .importAll _ => []

namespace Interpreter

variable {N : String → Native σ → Native τ → Prop} {seen : String → Prop}
  {i : Interpreter σ} {j : Interpreter τ}

theorem ofExcept_sim {α β : Type} {A : α → β → Prop} {x : Except Exception α}
    {y : Except Exception β} (h : Ended A x y) : Attempt.Sim R A (ofExcept x) (ofExcept y) := by
  cases h with
  | failed e => exact .throw e
  | returned hab => exact .pure hab

/-- A predefined name stands for related objects, none of which is a native function. -/
theorem predefined_sim (name : String) :
    Option.Rel (Object.Sim N) (predefined? name) (predefined? name) := by
  unfold predefined?
  repeat' split
  · exact .some .none
  · exact .some (.bool true)
  · exact .some (.bool false)
  · exact .some (.builtin .print)
  · exact .some (.builtin .exit)
  · exact .some .unprintable
  · cases ExceptionClass.ofName? name with
    | none => exact .none
    | some c => exact .some (.exceptionClass c)

/-- Members of related modules are related, and missing from both if from one. -/
theorem member_sim {m : Module σ} {n : Module τ} (h : Module.Sim N m n) (name : String) :
    Ended (Object.Sim N) (member m name) (member n name) := by
  have hfunction := h.function? name
  rw [member, member, h.imports, h.name]
  generalize m.function? name = x, n.function? name = y at hfunction
  cases hfunction with
  | some hf => exact .returned (.function name hf)
  | none =>
    dsimp only
    split
    · exact .returned (.module name)
    · exact .failed _

/-- The interpreter that has run one source more. -/
def counted (i : Interpreter σ) : Interpreter σ := { i with runs := i.runs + 1 }

theorem raised_eq {a : Object σ} {b : Object τ} (h : Object.Sim N a b) :
    raised a = raised b := by
  cases h <;> rfl

/-! ## Expressions -/

/-- Related objects are negated alike. -/
theorem negate_sim {a : Object σ} {b : Object τ} (h : Object.Sim N a b) :
    Attempt.Sim R (Object.Sim N) (negate a) (negate b) := by
  cases h with
  | int n =>
    rw [negate, negate]
    split
    · exact .crash _
    · exact .pure (.int _)
  | _ => exact .throw _

/-- Operations on integers do not see the host. -/
theorem arithmetic_sim (op : Operator) (a b : Int64) :
    Attempt.Sim R Eq (arithmetic op a b) (arithmetic op a b) := by
  cases op with
  | div =>
    rw [arithmetic, arithmetic]
    split
    · exact .throw _
    · split
      · exact .crash _
      · exact .pure rfl
  | _ => exact .pure rfl

/-- Operations on related operands have related values, or fail alike. -/
theorem operate_sim (op : Operator) {a a' : Object σ} {b b' : Object τ}
    (h : Object.Sim N a b) (h' : Object.Sim N a' b') :
    Attempt.Sim R (Object.Sim N) (operate op a a') (operate op b b') := by
  cases h with
  | int n =>
    cases h' with
    | int m => exact (arithmetic_sim op n m).map fun a b hab => hab ▸ .int a
    | _ => cases op <;> exact .throw _
  | str s =>
    cases h' with
    | str t =>
      cases op with
      | add => exact .pure (.str _)
      | _ => exact .throw _
    | _ => cases op <;> exact .throw _
  | _ =>
    -- Only the names of the types get into the exception, and these are the same.
    cases op <;> (simp only [operate, h'.typeName]; exact .throw _)

namespace Sim

/-- A name that is seen stands for related objects. -/
theorem lookup (h : Sim R N seen i j) {name : String} (hname : seen name) :
    Ended (Object.Sim N) (i.lookup name) (j.lookup name) := by
  have hglobal := h.globals name hname
  have hpredefined := predefined_sim (N := N) name
  rw [Interpreter.lookup, Interpreter.lookup]
  generalize i.globals name = x, j.globals name = y at hglobal
  cases hglobal with
  | some ho => exact .returned ho
  | none =>
    -- A name that neither binds stands for what every script finds bound.
    dsimp only
    generalize (predefined? name : Option (Object σ)) = x,
      (predefined? name : Option (Object τ)) = y at hpredefined
    cases hpredefined with
    | some ho => exact .returned ho
    | none => exact .failed _

/-- A module is registered with both interpreters or with neither. -/
theorem moduleOf (h : Sim R N seen i j) (name : String) :
    Ended (Module.Sim N) (i.moduleOf name) (j.moduleOf name) := by
  have hmodule := h.modules name
  rw [Interpreter.moduleOf, Interpreter.moduleOf]
  generalize i.modules name = x, j.modules name = y at hmodule
  cases hmodule with
  | some hm => exact .returned hm
  | none => exact .failed _

/-- Related objects do the same when they are called with related arguments. -/
theorem call (h : Sim R N seen i j) {a : Object σ} {b : Object τ} (hab : Object.Sim N a b)
    {as : List (Object σ)} {bs : List (Object τ)} (hargs : List.Forall₂ (Object.Sim N) as bs) :
    Attempt.Sim R (Object.Sim N) (i.call a as) (j.call b bs) := by
  cases hab with
  | function name hf =>
    -- Both native functions are given the same values, and so return the same one.
    rw [Interpreter.call, Interpreter.call, Object.Sim.map_toValue hargs]
    refine (Attempt.Sim.lift (h.natives hf _)).bind fun x y hxy => ?_
    obtain rfl := hxy.eq
    cases x with
    | error e => exact .throw _
    | ok v => exact .pure (.ofValue v)
  | builtin f =>
    cases f with
    | print =>
      rw [Interpreter.call, Interpreter.call, Object.Sim.mapM_text hargs]
      refine (ofExcept_sim (.refl _)).bind fun x y hxy => ?_
      rw [hxy]
      exact (h.write _).bind fun _ _ _ => .pure .none
    | exit => exact .throw _
  | exceptionClass c =>
    cases hargs with
    | nil => exact .pure (.exception _)
    | cons harg _ =>
      rw [Interpreter.call, Interpreter.call, harg.text]
      refine (ofExcept_sim (.refl _)).bind fun x y hxy => ?_
      rw [hxy]
      exact .pure (.exception _)
  | _ => exact .throw _

mutual

/-- Expressions that mention seen names only have related values. -/
theorem eval (h : Sim R N seen i j) :
    ∀ e : Expr, (∀ n ∈ e.names, seen n) → Attempt.Sim R (Object.Sim N) (i.eval e) (j.eval e)
  | .int n, _ => by rw [Interpreter.eval, Interpreter.eval]; exact .pure (.int n)
  | .str s, _ => by rw [Interpreter.eval, Interpreter.eval]; exact .pure (.str s)
  | .name n, hn => by
    rw [Interpreter.eval, Interpreter.eval]
    exact ofExcept_sim (h.lookup (hn n (List.mem_singleton_self n)))
  | .neg e, hn => by
    rw [Interpreter.eval, Interpreter.eval]
    exact (h.eval e hn).bind fun _ _ hab => negate_sim hab
  | .binary op left right, hn => by
    rw [Interpreter.eval, Interpreter.eval]
    refine (h.eval left fun n hl => hn n ?_).bind fun _ _ hab => ?_
    · exact List.mem_append_left _ hl
    · refine (h.eval right fun n hr => hn n ?_).bind fun _ _ hab' => operate_sim op hab hab'
      exact List.mem_append_right _ hr
  | .attr e name, hn => by
    rw [Interpreter.eval, Interpreter.eval]
    refine (h.eval e hn).bind fun a b hab => ?_
    -- Only a module has attributes; everything else fails alike.
    cases hab with
    | module m =>
      refine ofExcept_sim ?_
      have hm := h.moduleOf m
      generalize i.moduleOf m = x, j.moduleOf m = y at hm
      cases hm with
      | failed e => exact .failed e
      | returned hm => exact member_sim hm name
    | _ => exact .throw _
  | .call callee args, hn => by
    rw [Interpreter.eval, Interpreter.eval]
    refine (h.eval callee fun n hc => hn n ?_).bind fun _ _ hab => ?_
    · exact List.mem_append_left _ hc
    · refine (h.evalAll args fun n ha => hn n ?_).bind fun _ _ hargs => h.call hab hargs
      exact List.mem_append_right _ ha

/-- Lists of such expressions have related lists of values. -/
theorem evalAll (h : Sim R N seen i j) :
    ∀ es : List Expr, (∀ n ∈ Expr.allNames es, seen n) →
      Attempt.Sim R (List.Forall₂ (Object.Sim N)) (i.evalAll es) (j.evalAll es)
  | [], _ => by rw [Interpreter.evalAll, Interpreter.evalAll]; exact .pure .nil
  | e :: rest, hn => by
    rw [Interpreter.evalAll, Interpreter.evalAll]
    refine (h.eval e fun n he => hn n ?_).bind fun _ _ hab => ?_
    · exact List.mem_append_left _ he
    · refine (h.evalAll rest fun n hr => hn n ?_).bind fun _ _ habs => .pure (.cons hab habs)
      exact List.mem_append_right _ hr

end

/-! ## Statements -/

/-- A name may be bound on both sides to related objects. -/
theorem bind (h : Sim R N seen i j) (name : String) {a : Object σ} {b : Object τ}
    (hab : Object.Sim N a b) : Sim R N seen (i.bind name a) (j.bind name b) := by
  refine ⟨⟨fun n hn => ?_, h.modules⟩, h.natives, h.write, h.pending, h.runs⟩
  simp only [Interpreter.bind, Bindings.bind]
  split
  · exact .some hab
  · exact h.globals n hn

/-- Names may be bound on both sides to related native functions. -/
theorem bindFunctions (h : Sim R N seen i j) {fs : List (String × Native σ)}
    {gs : List (String × Native τ)}
    (hfs : List.Forall₂ (fun a b => a.1 = b.1 ∧ N a.1 a.2 b.2) fs gs) :
    Sim R N seen (i.bindFunctions fs) (j.bindFunctions gs) := by
  induction hfs generalizing i j with
  | nil => exact h
  | @cons a b fs gs hab _ ih =>
    obtain ⟨x, f⟩ := a
    obtain ⟨y, g⟩ := b
    obtain ⟨rfl, hfg⟩ : x = y ∧ N x f g := hab
    exact ih (h.bind x (.function x hfg))

/-- Two runs ended in the same way and leave related interpreters behind. -/
def After {γ : Type} (R : σ → τ → Prop) (N : String → Native σ → Native τ → Prop)
    (seen : String → Prop) (x : γ × Interpreter σ) (y : γ × Interpreter τ) : Prop :=
  x.1 = y.1 ∧ Sim R N seen x.2 y.2

/-- Modules are bound on both sides up to the same name, and what is missing is the same. -/
theorem bindModules (h : Sim R N seen i j) (names : List String) :
    After R N seen (i.bindModules names) (j.bindModules names) := by
  induction names generalizing i j with
  | nil => exact ⟨rfl, h⟩
  | cons name rest ih =>
    have hm := h.moduleOf name
    rw [Interpreter.bindModules, Interpreter.bindModules]
    generalize i.moduleOf name = x, j.moduleOf name = y at hm
    cases hm with
    | failed e => exact ⟨rfl, h⟩
    | returned _ => exact ih (h.bind name (.module name))

/-- Statements that read seen names only do the same. -/
theorem run (h : Sim R N seen i j) (s : Stmt) (hs : ∀ n ∈ s.names, seen n) :
    Run.Sim R (After R N seen) (i.run s) (j.run s) := by
  -- What a statement binds is related on both sides, and nothing else changes.
  cases s with
  | expr e =>
    refine Run.Sim.bind (h.eval e hs) fun x y hxy => ?_
    cases hxy with
    | failed e => exact .pure ⟨rfl, h⟩
    | returned _ => exact .pure ⟨rfl, h⟩
  | assign target e =>
    refine Run.Sim.bind (h.eval e hs) fun x y hxy => ?_
    cases hxy with
    | failed e => exact .pure ⟨rfl, h⟩
    | returned hab => exact .pure ⟨rfl, h.bind target hab⟩
  | importModule name =>
    have hm := h.moduleOf name
    rw [Interpreter.run, Interpreter.run]
    generalize i.moduleOf name = x, j.moduleOf name = y at hm
    cases hm with
    | failed e => exact .pure ⟨rfl, h⟩
    | returned _ => exact .pure ⟨rfl, h.bind name (.module name)⟩
  | importAll name =>
    have hm := h.moduleOf name
    rw [Interpreter.run, Interpreter.run]
    generalize i.moduleOf name = x, j.moduleOf name = y at hm
    cases hm with
    | failed e => exact .pure ⟨rfl, h⟩
    | returned hm =>
      dsimp only
      rw [hm.imports]
      exact .pure ((h.bindFunctions hm.functions).bindModules _)
  | raise e =>
    refine Run.Sim.bind (h.eval e hs) fun x y hxy => ?_
    cases hxy with
    | failed e => exact .pure ⟨rfl, h⟩
    | returned hab => exact .pure ⟨by rw [raised_eq hab], h⟩

/-- Statements that read seen names only do the same, one after the other. -/
theorem runAll (h : Sim R N seen i j) (ss : List Stmt) (hss : ∀ s ∈ ss, ∀ n ∈ s.names, seen n) :
    Run.Sim R (After R N seen) (i.runAll ss) (j.runAll ss) := by
  induction ss generalizing i j with
  | nil => exact .pure ⟨rfl, h⟩
  | cons s rest ih =>
    refine Run.Sim.bind (h.run s (hss s List.mem_cons_self)) fun x y hxy => ?_
    obtain ⟨result, i'⟩ := x
    obtain ⟨result', j'⟩ := y
    obtain ⟨rfl, h'⟩ : result = result' ∧ Sim R N seen i' j' := hxy
    cases result with
    | error e => exact .pure ⟨rfl, h'⟩
    | ok _ => exact ih h' fun s hs => hss s (List.mem_cons_of_mem _ hs)

/-! ## Sources -/

theorem counted (h : Sim R N seen i j) : Sim R N seen i.counted j.counted :=
  ⟨⟨h.globals, h.modules⟩, h.natives, h.write, h.pending, congrArg (· + 1) h.runs⟩

theorem withPending (h : Sim R N seen i j) (pending : Option Exception) :
    Sim R N seen { i with pending } { j with pending } :=
  ⟨⟨h.globals, h.modules⟩, h.natives, h.write, rfl, h.runs⟩

/-- Related results are reported alike, and leave the same exception behind. -/
theorem complete (h : Sim R N seen i j) {x : Except Exception (Object σ)}
    {y : Except Exception (Object τ)} (hxy : Ended (Object.Sim N) x y) :
    After R N seen (i.complete x) (j.complete y) := by
  cases hxy with
  | failed e => exact ⟨rfl, h.withPending _⟩
  | returned hab =>
    cases hab with
    | none => exact ⟨rfl, h⟩
    | bool b => cases b <;> exact ⟨rfl, h⟩
    | unprintable => exact ⟨rfl, h.withPending _⟩
    | _ => exact ⟨rfl, h⟩

/-- A source that reads seen names only runs alike as an expression. -/
theorem evaluate (h : Sim R N seen i j) (code : String)
    (hcode : ∀ e, expressionOf? code = some e → ∀ n ∈ e.names, seen n) :
    Run.Sim R (After R N seen) (i.evaluate code) (j.evaluate code) := by
  rw [Interpreter.evaluate, Interpreter.evaluate]
  cases hread : expressionOf? code with
  | none => exact .pure (h.counted.complete (.failed _))
  | some e =>
    exact Run.Sim.bind (h.counted.eval e (hcode e hread)) fun _ _ hxy =>
      .pure (h.counted.complete hxy)

/-- A source that reads seen names only runs alike as a program. -/
theorem execute (h : Sim R N seen i j) (code : String)
    (hcode : ∀ ss, programOf? code = some ss → ∀ s ∈ ss, ∀ n ∈ s.names, seen n) :
    Run.Sim R (After R N seen) (i.execute code) (j.execute code) := by
  rw [Interpreter.execute, Interpreter.execute]
  cases hread : programOf? code with
  | none => exact .pure (h.counted.complete (.failed _))
  | some ss =>
    refine Run.Sim.bind (h.counted.runAll ss (hcode ss hread)) fun x y hxy => ?_
    obtain ⟨result, i'⟩ := x
    obtain ⟨result', j'⟩ := y
    obtain ⟨rfl, h'⟩ : result = result' ∧ Sim R N seen i' j' := hxy
    refine .pure (h'.complete ?_)
    cases result with
    | error e => exact .failed e
    | ok _ => exact .returned .none

end Sim

end Interpreter

end LedBoard.Script
