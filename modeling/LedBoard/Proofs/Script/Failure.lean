import LedBoard.Proofs.Script.Sequence

/-!
# How runs fail

Evaluating an expression comes to evaluating the expressions within it, from the left, until one
of them fails; and a program comes to the expressions of its statements, until a statement fails.
A failure at a place that a run comes to ends the run there and then, since no script catches an
exception: as an exception it is reported in the completion and left behind, and as a crash it
ends everything.

If no native function crashes, two operations do: the negation of the least integer, and its
quotient by minus one.

* `Reaches`, `Visits`: the places that evaluating an expression, and running a source, come to;
* `Overflows`: a place with one of the two operations;
* `eval_eq_error_iff`, `input_eq_error_iff`: an evaluation, and a run, crash exactly if they come
  to such a place;
* `Visits.input_of_raises`: an exception that is raised where a run comes to is reported;
* `reported_of_input`: a run that does not crash has a value or none, or reports an exception.
-/

namespace LedBoard.Script

variable {σ α β : Type}

/-! ## Ending early -/

/-- The run ends early from a host: with a crash, or with an exception on another host. -/
def Raising.Ends (m : Raising σ α) (s : σ) (failure : Except Crash (Exception × σ)) : Prop :=
  m.run s = failure.map fun x => (.error x.1, x.2)

theorem Raising.bind_run (m : Raising σ α) (f : α → Raising σ β) (s : σ) :
    (m >>= f).run s = m.run s >>= fun x =>
      match x with
      | (.ok a, s') => (f a).run s'
      | (.error e, s') => .ok (.error e, s') := by
  change (m.run s >>= fun x => _) = _
  congr
  funext ⟨r, s'⟩
  cases r <;> rfl

theorem Raising.bind_run_of_ok {m : Raising σ α} {s s' : σ} {a : α} (h : m.run s = .ok (.ok a, s'))
    (f : α → Raising σ β) : (m >>= f).run s = (f a).run s' := by
  rw [bind_run, h]
  rfl

/-- An exception of the first part is that of the whole. -/
theorem Raising.bind_run_of_raised {m : Raising σ α} {s s' : σ} {x : Exception}
    (h : m.run s = .ok (.error x, s')) (f : α → Raising σ β) :
    (m >>= f).run s = .ok (.error x, s') := by
  rw [bind_run, h]
  rfl

/-- Nothing comes after an early end. -/
theorem Raising.Ends.bind {m : Raising σ α} {s : σ} {failure : Except Crash (Exception × σ)}
    (h : m.Ends s failure) (f : α → Raising σ β) : (m >>= f).Ends s failure := by
  rw [Raising.Ends, bind_run, h]
  cases failure with
  | error crash => rfl
  | ok x => rfl

/-- A crash of two runs is one of the first, or one of the second where the first returned. -/
theorem Raising.bind_eq_error {m : Raising σ α} {f : α → Raising σ β} {s : σ} {crash : Crash}
    (h : (m >>= f).run s = .error crash) :
    m.run s = .error crash ∨ ∃ a s', m.run s = .ok (.ok a, s') ∧ (f a).run s' = .error crash := by
  rw [bind_run] at h
  cases hm : m.run s with
  | error crash' =>
    rw [hm] at h
    cases h
    exact .inl rfl
  | ok x =>
    rw [hm] at h
    obtain ⟨r, s'⟩ := x
    cases r with
    | error e => cases h
    | ok a => exact .inr ⟨a, s', rfl, h⟩

/-- Two runs that return are a run of the first that returns and one of the second. -/
theorem Raising.exists_of_bind {m : Raising σ α} {f : α → Raising σ β} {s s'' : σ} {b : β}
    (h : (m >>= f).run s = .ok (.ok b, s'')) :
    ∃ a s', m.run s = .ok (.ok a, s') ∧ (f a).run s' = .ok (.ok b, s'') := by
  rw [bind_run] at h
  cases hm : m.run s with
  | error crash =>
    rw [hm] at h
    cases h
  | ok x =>
    rw [hm] at h
    obtain ⟨r, s'⟩ := x
    cases r with
    | error e => cases h
    | ok a => exact ⟨a, s', rfl, h⟩

theorem Raising.bind_crashFree {m : Raising σ α} {f : α → Raising σ β}
    (hm : Run.CrashFree m.run) (hf : ∀ a, Run.CrashFree (f a).run) :
    Run.CrashFree (m >>= f).run := by
  intro s
  obtain ⟨⟨r, s'⟩, hrun⟩ := hm s
  rw [bind_run, hrun]
  cases r with
  | error e => exact ⟨_, rfl⟩
  | ok a => exact hf a s'

theorem ofExcept_crashFree (x : Except Exception α) :
    Run.CrashFree (ofExcept x : Raising σ α).run := by
  cases x with
  | error e => exact .pure _
  | ok a => exact .pure _

/-- The expression that a statement evaluates. -/
def Stmt.expression? : Stmt → Option Expr
  | .expr e | .assign _ e | .raise e => some e
  | .importModule _ | .importAll _ => none

/-- How a run ends that an exception ends. -/
def Exception.completion (x : Exception) : Completion :=
  if x.asksToExit then .exit else .error x.text

namespace Interpreter

/-! ## Places within an expression -/

/-- Evaluating an expression from a host comes to evaluating another one from another host. -/
inductive Reaches (i : Interpreter σ) : Expr → σ → Expr → σ → Prop
  | self (e : Expr) (s : σ) : Reaches i e s e s
  | neg {e e' : Expr} {s s' : σ} (h : Reaches i e s e' s') : Reaches i (.neg e) s e' s'
  | left {op : Operator} {left right e' : Expr} {s s' : σ} (h : Reaches i left s e' s') :
      Reaches i (.binary op left right) s e' s'
  | right {op : Operator} {left right e' : Expr} {s s₁ s' : σ} {a : Object σ}
      (hleft : (i.eval left).run s = .ok (.ok a, s₁)) (h : Reaches i right s₁ e' s') :
      Reaches i (.binary op left right) s e' s'
  | attr {e e' : Expr} {name : String} {s s' : σ} (h : Reaches i e s e' s') :
      Reaches i (.attr e name) s e' s'
  | callee {callee e' : Expr} {args : List Expr} {s s' : σ} (h : Reaches i callee s e' s') :
      Reaches i (.call callee args) s e' s'
  | argument {callee arg e' : Expr} {before after : List Expr} {s s₁ s₂ s' : σ} {o : Object σ}
      {values : List (Object σ)} (hcallee : (i.eval callee).run s = .ok (.ok o, s₁))
      (hbefore : (i.evalAll before).run s₁ = .ok (.ok values, s₂))
      (h : Reaches i arg s₂ e' s') : Reaches i (.call callee (before ++ arg :: after)) s e' s'

/-- The place is a negation or a quotient that does not fit into 64 bits with a sign. -/
inductive Overflows (i : Interpreter σ) : Expr → σ → Prop
  | neg {e : Expr} {s s' : σ} (h : (i.eval e).run s = .ok (.ok (.int Int64.minValue), s')) :
      Overflows i (.neg e) s
  | div {left right : Expr} {s s₁ s₂ : σ}
      (hleft : (i.eval left).run s = .ok (.ok (.int Int64.minValue), s₁))
      (hright : (i.eval right).run s₁ = .ok (.ok (.int (-1)), s₂)) :
      Overflows i (.binary .div left right) s

variable {i : Interpreter σ}

theorem evalAll_ends {before after : List Expr} {arg : Expr} {s s' : σ}
    {values : List (Object σ)} (hbefore : (i.evalAll before).run s = .ok (.ok values, s'))
    {failure : Except Crash (Exception × σ)} (hend : (i.eval arg).Ends s' failure) :
    (i.evalAll (before ++ arg :: after)).Ends s failure := by
  induction before generalizing s values with
  | nil =>
    rw [evalAll] at hbefore
    cases hbefore
    rw [List.nil_append, evalAll]
    exact hend.bind _
  | cons e rest ih =>
    rw [evalAll] at hbefore
    obtain ⟨v, s₁, hv, hbefore⟩ := Raising.exists_of_bind hbefore
    obtain ⟨vs, s₂, hvs, hbefore⟩ := Raising.exists_of_bind hbefore
    cases hbefore
    rw [List.cons_append, evalAll, Raising.Ends, Raising.bind_run_of_ok hv]
    exact (ih hvs).bind _

/-- An early end where an evaluation comes to is an early end of this evaluation. -/
theorem Reaches.ends {e e' : Expr} {s s' : σ} (h : i.Reaches e s e' s')
    {r : Except Crash (Exception × σ)} (hend : (i.eval e').Ends s' r) :
    (i.eval e).Ends s r := by
  induction h with
  | self e s => exact hend
  | neg h ih =>
    rw [eval]
    exact (ih hend).bind _
  | left h ih =>
    rw [eval]
    exact (ih hend).bind _
  | right hleft h ih =>
    rw [eval, Raising.Ends, Raising.bind_run_of_ok hleft]
    exact (ih hend).bind _
  | attr h ih =>
    rw [eval]
    exact (ih hend).bind _
  | callee h ih =>
    rw [eval]
    exact (ih hend).bind _
  | argument hcallee hbefore h ih =>
    rw [eval, Raising.Ends, Raising.bind_run_of_ok hcallee]
    exact (evalAll_ends hbefore (ih hend)).bind _

/-- Where the least integer is negated, or divided by minus one, the evaluation crashes. -/
theorem Overflows.crash {e : Expr} {s : σ} (h : i.Overflows e s) :
    (i.eval e).run s = .error .overflow := by
  cases h with
  | neg h =>
    rw [eval, Raising.bind_run_of_ok h]
    rfl
  | div hleft hright =>
    rw [eval, Raising.bind_run_of_ok hleft, Raising.bind_run_of_ok hright]
    rfl

/-! ## Where an evaluation crashes -/

/-- No native function that the interpreter knows crashes. -/
def Sturdy (i : Interpreter σ) : Prop := i.Only fun _ f => ∀ args, Run.CrashFree (f args).run

namespace Sturdy

/-- The native functions in the value of an expression do not crash. -/
theorem value (hi : i.Sturdy) {e : Expr} {s s' : σ} {o : Object σ}
    (h : (i.eval e).run s = .ok (.ok o, s')) :
    Object.Sim (fun _ f g => f = g ∧ ∀ args, Run.CrashFree (f args).run) o o := by
  have hsim := (Only.sim hi).eval e (fun _ _ => trivial) s s rfl
  rw [h] at hsim
  cases hsim with
  | returned hend =>
    cases hend.1 with
    | returned ho => exact ho

theorem call {o : Object σ}
    (ho : Object.Sim (fun _ f g => f = g ∧ ∀ args, Run.CrashFree (f args).run) o o)
    (args : List (Object σ)) : Run.CrashFree (i.call o args).run := by
  cases ho with
  | function name hf =>
    rw [Interpreter.call]
    refine Raising.bind_crashFree (.bind (hf.2 _) fun r => .pure _) fun r => ?_
    cases r with
    | error e => exact .pure _
    | ok v => exact .pure _
  | builtin b =>
    cases b with
    | print =>
      rw [Interpreter.call]
      refine Raising.bind_crashFree (ofExcept_crashFree _) fun texts => ?_
      exact Raising.bind_crashFree (fun s => ⟨_, i.write_apply _ s⟩) fun _ => .pure _
    | exit => exact .pure _
  | exceptionClass c =>
    cases args with
    | nil => exact .pure _
    | cons arg rest =>
      rw [Interpreter.call]
      exact Raising.bind_crashFree (ofExcept_crashFree _) fun _ => .pure _
  | _ => exact .pure _

end Sturdy

/-- What is negated where the negation crashes. -/
theorem negate_eq_error {a : Object σ} {s : σ} {crash : Crash}
    (h : (negate a).run s = .error crash) : crash = .overflow ∧ a = .int Int64.minValue := by
  cases a with
  | int n =>
    rw [negate] at h
    split at h
    next hn =>
      cases h
      exact ⟨rfl, by rw [hn]⟩
    next => cases h
  | _ => cases h

/-- What is divided where an operation crashes. -/
theorem operate_eq_error {op : Operator} {a b : Object σ} {s : σ} {crash : Crash}
    (h : (operate op a b).run s = .error crash) :
    crash = .overflow ∧ op = .div ∧ a = .int Int64.minValue ∧ b = .int (-1) := by
  rw [operate.eq_def] at h
  split at h
  next a b =>
    cases op with
    | div =>
      change (Object.int <$> arithmetic .div a b).run s = _ at h
      rw [arithmetic] at h
      split at h
      · cases h
      · split at h
        next hab =>
          obtain ⟨rfl, rfl⟩ := hab
          cases h
          exact ⟨rfl, rfl, rfl, rfl⟩
        next => cases h
    | _ => cases h
  next => cases h
  next => cases h

mutual

/-- If no native function crashes, an evaluation crashes only at an operation that overflows. The
    induction follows the evaluation to the part that crashed. -/
theorem eval_eq_error (hi : i.Sturdy) {crash : Crash} :
    ∀ (e : Expr) (s : σ), (i.eval e).run s = .error crash →
      crash = .overflow ∧ ∃ e' s', i.Reaches e s e' s' ∧ i.Overflows e' s'
  | .int n, s, h => by rw [eval] at h; cases h
  | .str n, s, h => by rw [eval] at h; cases h
  | .name n, s, h => by
    rw [eval] at h
    cases hlookup : i.lookup n with
    | error e => rw [hlookup] at h; cases h
    | ok o => rw [hlookup] at h; cases h
  | .neg e, s, h => by
    rw [eval] at h
    rcases Raising.bind_eq_error h with h | ⟨a, s', ha, h⟩
    · obtain ⟨hcrash, e', s', hreaches, hoverflows⟩ := eval_eq_error hi e s h
      exact ⟨hcrash, e', s', .neg hreaches, hoverflows⟩
    -- The operand has a value, so it is the negation itself that overflows.
    · obtain ⟨hcrash, rfl⟩ := negate_eq_error h
      exact ⟨hcrash, .neg e, s, .self _ _, .neg ha⟩
  | .binary op left right, s, h => by
    rw [eval] at h
    rcases Raising.bind_eq_error h with h | ⟨a, s₁, ha, h⟩
    · obtain ⟨hcrash, e', s', hreaches, hoverflows⟩ := eval_eq_error hi left s h
      exact ⟨hcrash, e', s', .left hreaches, hoverflows⟩
    · rcases Raising.bind_eq_error h with h | ⟨b, s₂, hb, h⟩
      · obtain ⟨hcrash, e', s', hreaches, hoverflows⟩ := eval_eq_error hi right s₁ h
        exact ⟨hcrash, e', s', .right ha hreaches, hoverflows⟩
      · obtain ⟨hcrash, rfl, rfl, rfl⟩ := operate_eq_error h
        exact ⟨hcrash, _, s, .self _ _, .div ha hb⟩
  | .attr e name, s, h => by
    rw [eval] at h
    rcases Raising.bind_eq_error h with h | ⟨a, s', ha, h⟩
    · obtain ⟨hcrash, e', s', hreaches, hoverflows⟩ := eval_eq_error hi e s h
      exact ⟨hcrash, e', s', .attr hreaches, hoverflows⟩
    · cases a with
      | module m =>
        obtain ⟨x, hx⟩ := ofExcept_crashFree (i.moduleOf m >>= (member · name)) s'
        cases hx.symm.trans h
      | _ => cases h
  | .call callee args, s, h => by
    rw [eval] at h
    rcases Raising.bind_eq_error h with h | ⟨f, s₁, hf, h⟩
    · obtain ⟨hcrash, e', s', hreaches, hoverflows⟩ := eval_eq_error hi callee s h
      exact ⟨hcrash, e', s', .callee hreaches, hoverflows⟩
    · rcases Raising.bind_eq_error h with h | ⟨values, s₂, hvalues, h⟩
      · obtain ⟨hcrash, before, arg, after, vs, s₂, e', s', rfl, hbefore, hreaches, hoverflows⟩ :=
          evalAll_eq_error hi args s₁ h
        exact ⟨hcrash, e', s', .argument hf hbefore hreaches, hoverflows⟩
      -- The call itself does not crash, whatever it is that is called.
      · obtain ⟨x, hx⟩ := Sturdy.call (hi.value hf) values s₂
        cases hx.symm.trans h

theorem evalAll_eq_error (hi : i.Sturdy) {crash : Crash} :
    ∀ (es : List Expr) (s : σ), (i.evalAll es).run s = .error crash →
      crash = .overflow ∧ ∃ before arg after values s₁ e' s', es = before ++ arg :: after ∧
        (i.evalAll before).run s = .ok (.ok values, s₁) ∧
        i.Reaches arg s₁ e' s' ∧ i.Overflows e' s'
  | [], s, h => by rw [evalAll] at h; cases h
  | e :: rest, s, h => by
    rw [evalAll] at h
    rcases Raising.bind_eq_error h with h | ⟨v, s₁, hv, h⟩
    · obtain ⟨hcrash, e', s', hreaches, hoverflows⟩ := eval_eq_error hi e s h
      refine ⟨hcrash, [], e, rest, [], s, e', s', rfl, ?_, hreaches, hoverflows⟩
      rw [evalAll]
      rfl
    · rcases Raising.bind_eq_error h with h | ⟨vs, s₂, hvs, h⟩
      · obtain ⟨hcrash, before, arg, after, values, s₂, e', s', rfl, hbefore, hreaches,
          hoverflows⟩ := evalAll_eq_error hi rest s₁ h
        refine ⟨hcrash, e :: before, arg, after, v :: values, s₂, e', s', rfl, ?_, hreaches,
          hoverflows⟩
        rw [evalAll, Raising.bind_run_of_ok hv, Raising.bind_run_of_ok hbefore]
        rfl
      · cases h

end

/-- An evaluation crashes exactly if it comes to an operation that overflows. -/
theorem eval_eq_error_iff (hi : i.Sturdy) (e : Expr) (s : σ) (crash : Crash) :
    (i.eval e).run s = .error crash ↔
      crash = .overflow ∧ ∃ e' s', i.Reaches e s e' s' ∧ i.Overflows e' s' := by
  constructor
  · exact eval_eq_error hi e s
  · rintro ⟨rfl, e', s', hreaches, hoverflows⟩
    exact hreaches.ends (r := .error .overflow) hoverflows.crash

/-! ## Places within a source -/

/-- Running a program from a host comes to a statement, with an interpreter and on a host. -/
def Arrives (i : Interpreter σ) (code : String) (s : σ) (j : Interpreter σ) (st : Stmt) (s' : σ) :
    Prop :=
  ∃ before after, programOf? code = some (before ++ st :: after) ∧
    i.counted.runAll before s = .ok ((.ok (), j), s')

/-- Running a source in a mode from a host comes to evaluating an expression, with an interpreter
    and on a host. -/
inductive Visits (i : Interpreter σ) (code : String) (s : σ) :
    InputMode → Interpreter σ → Expr → σ → Prop
  | expression {whole e : Expr} {s' : σ} (hread : expressionOf? code = some whole)
      (h : i.counted.Reaches whole s e s') : Visits i code s .expression i.counted e s'
  | statement {st : Stmt} {j : Interpreter σ} {whole e : Expr} {s₁ s' : σ}
      (harrives : i.Arrives code s j st s₁) (hst : st.expression? = some whole)
      (h : j.Reaches whole s₁ e s') : Visits i code s .statements j e s'

variable {j k : Interpreter σ} {code : String} {st : Stmt} {s s' s'' : σ}

/-- A statement ends early where its expression does. -/
theorem run_ends {e : Expr} (hst : st.expression? = some e)
    {failure : Except Crash (Exception × σ)} (hend : (i.eval e).Ends s failure) :
    i.run st s = failure.map fun x => ((.error x.1, i), x.2) := by
  cases st with
  | expr e' | assign target e' | raise e' =>
    obtain rfl := Option.some.inj hst
    rw [run, Run.bind_apply, hend]
    cases failure <;> rfl
  | importModule name | importAll name => cases hst

/-- Where a statement crashes, its expression does. -/
theorem exists_of_run_eq_error {crash : Crash} (h : i.run st s = .error crash) :
    ∃ e, st.expression? = some e ∧ (i.eval e).run s = .error crash := by
  cases st with
  | expr e | assign target e | raise e =>
    rw [run, Run.bind_apply] at h
    cases hvalue : (i.eval e).run s with
    | error crash' =>
      rw [hvalue] at h
      cases h
      exact ⟨e, rfl, hvalue⟩
    | ok x =>
      rw [hvalue] at h
      obtain ⟨r, s'⟩ := x
      cases r <;> cases h
  | importModule name | importAll name =>
    rw [run] at h
    cases hm : i.moduleOf name with
    | error e =>
      rw [hm] at h
      cases h
    | ok m =>
      rw [hm] at h
      cases h

/-- A program ends where a statement that it comes to fails. -/
theorem Arrives.execute_of_ends (harrives : i.Arrives code s j st s')
    {r : Except Crash ((Exception × Interpreter σ) × σ)}
    (hend : j.run st s' = r.map fun x => ((.error x.1.1, x.1.2), x.2)) :
    i.execute code s = r.map fun x => (x.1.2.complete (.error x.1.1), x.2) := by
  obtain ⟨before, after, hread, hbefore⟩ := harrives
  rw [i.execute_eq hread, Run.map_apply, runAll_append, Run.bind_of_ok hbefore]
  dsimp only
  rw [runAll, Run.bind_apply, hend]
  cases r <;> rfl

/-- A run ends where an expression that it comes to fails. -/
theorem Visits.input_of_ends {mode : InputMode} {e : Expr} (h : i.Visits code s mode j e s')
    {r : Except Crash (Exception × σ)} (hend : (j.eval e).Ends s' r) :
    i.input mode code s = r.map fun x => (j.complete (.error x.1), x.2) := by
  cases h with
  | expression hread h =>
    rw [input, i.evaluate_eq hread, Run.map_apply, h.ends hend]
    cases r <;> rfl
  | statement harrives hst h =>
    have hrun := run_ends hst (h.ends hend)
    rw [input, harrives.execute_of_ends (r := r.map fun x => ((x.1, j), x.2))]
    · cases r <;> rfl
    · rw [hrun]
      cases r <;> rfl

/-! ## Where a run crashes -/

/-- Behind statements that have run the interpreter knows the same native functions. -/
theorem Sturdy.runAll (hi : i.Sturdy) {ss : List Stmt} {r : Except Exception Unit}
    (h : i.runAll ss s = .ok ((r, j), s')) : j.Sturdy := by
  have hsim := (Only.sim hi).runAll ss (fun _ _ _ _ => trivial) s s rfl
  rw [h] at hsim
  cases hsim with
  | returned hend => exact hend.1.2.toBound

/-- Statements crash at an expression of one of them, behind others that have run. -/
theorem runAll_eq_error (hi : i.Sturdy) {ss : List Stmt} {crash : Crash}
    (h : i.runAll ss s = .error crash) :
    crash = .overflow ∧ ∃ before st after j s₁ whole e s', ss = before ++ st :: after ∧
      i.runAll before s = .ok ((.ok (), j), s₁) ∧ st.expression? = some whole ∧
      j.Reaches whole s₁ e s' ∧ j.Overflows e s' := by
  induction ss generalizing i s with
  | nil => cases h
  | cons st rest ih =>
    rw [Interpreter.runAll, Run.bind_apply] at h
    cases hst : i.run st s with
    | error crash' =>
      rw [hst] at h
      cases h
      obtain ⟨whole, hwhole, hvalue⟩ := exists_of_run_eq_error hst
      obtain ⟨hcrash, e, s', hreaches, hoverflows⟩ := eval_eq_error hi whole s hvalue
      exact ⟨hcrash, [], st, rest, i, s, whole, e, s', rfl, rfl, hwhole, hreaches, hoverflows⟩
    | ok x =>
      rw [hst] at h
      obtain ⟨⟨r, j⟩, s₁⟩ := x
      have hrun : i.runAll [st] s = .ok ((r, j), s₁) := by
        rw [Interpreter.runAll, Run.bind_of_ok hst]
        cases r <;> rfl
      cases r with
      | error e => cases h
      | ok _ =>
        obtain ⟨hcrash, before, st', after, k, s₂, whole, e, s', rfl, hbefore, hplace⟩ :=
          ih (hi.runAll hrun) h
        refine ⟨hcrash, st :: before, st', after, k, s₂, whole, e, s', rfl, ?_, hplace⟩
        rw [Interpreter.runAll, Run.bind_of_ok hst]
        exact hbefore

/-- A run crashes exactly if it comes to an operation that overflows. -/
theorem input_eq_error_iff (hi : i.Sturdy) (mode : InputMode) (code : String) (s : σ)
    (crash : Crash) :
    i.input mode code s = .error crash ↔
      crash = .overflow ∧ ∃ j e s', i.Visits code s mode j e s' ∧ j.Overflows e s' := by
  constructor
  · intro h
    have hcounted : i.counted.Sturdy := ⟨hi.globals, hi.modules⟩
    -- A source that cannot be read does not crash, so the crash is one of its evaluation.
    cases mode with
    | expression =>
      rw [input] at h
      cases hread : expressionOf? code with
      | none =>
        rw [i.evaluate_of_none hread] at h
        cases h
      | some whole =>
        rw [i.evaluate_eq hread, Run.map_apply] at h
        cases hvalue : (i.counted.eval whole).run s with
        | ok x =>
          rw [hvalue] at h
          cases h
        | error crash' =>
          rw [hvalue] at h
          cases h
          obtain ⟨hcrash, e, s', hreaches, hoverflows⟩ := eval_eq_error hcounted whole s hvalue
          exact ⟨hcrash, _, e, s', .expression hread hreaches, hoverflows⟩
    | statements =>
      rw [input] at h
      cases hread : programOf? code with
      | none =>
        rw [i.execute_of_none hread] at h
        cases h
      | some ss =>
        rw [i.execute_eq hread, Run.map_apply] at h
        cases hall : i.counted.runAll ss s with
        | ok x =>
          rw [hall] at h
          cases h
        | error crash' =>
          rw [hall] at h
          cases h
          obtain ⟨hcrash, before, st, after, j, s₁, whole, e, s', rfl, hbefore, hst, hreaches,
            hoverflows⟩ := runAll_eq_error hcounted hall
          exact ⟨hcrash, j, e, s', .statement ⟨before, after, hread, hbefore⟩ hst hreaches,
            hoverflows⟩
  · rintro ⟨rfl, j, e, s', hvisits, hoverflows⟩
    exact hvisits.input_of_ends (r := .error .overflow) hoverflows.crash

/-! ## How a failure is reported -/

theorem complete_error (x : Exception) :
    i.complete (.error x) = (x.completion, { i with pending := some x }) := rfl

/-- An exception that is raised where a run comes to ends it, is reported and left behind. -/
theorem Visits.input_of_raises {mode : InputMode} {e : Expr} {x : Exception}
    (h : i.Visits code s mode j e s') (hraises : (j.eval e).run s' = .ok (.error x, s'')) :
    i.input mode code s = .ok ((x.completion, { j with pending := some x }), s'') :=
  h.input_of_ends (r := .ok (x, s'')) hraises

/-- So it is for a statement that fails. -/
theorem Arrives.execute_of_raises {x : Exception} (h : i.Arrives code s j st s')
    (hraises : j.run st s' = .ok ((.error x, k), s'')) :
    i.execute code s = .ok ((x.completion, { k with pending := some x }), s'') :=
  h.execute_of_ends (r := .ok ((x, k), s'')) hraises

/-- The failure of a representation is reported as such. -/
theorem complete_of_unshown {o : Object σ} {x : Exception} (h : o.repr = .error x) :
    i.complete (.ok o) = (.valueError x.text, { i with pending := some x }) := by
  cases o with
  | unprintable =>
    cases h
    rfl
  | bool b => cases b <;> cases h
  | _ => cases h

theorem complete_of_shown {o : Object σ} {text : String} (h : o.repr = .ok text) :
    (i.complete (.ok o)).1 = .noValue ∨ (i.complete (.ok o)).1 = .value text := by
  cases o with
  | none => exact .inl rfl
  | _ => exact .inr (by rw [complete.eq_def]; simp only [h])

/-- However a run came to an end, its completion is made up from a result. -/
theorem input_returns (i : Interpreter σ) (mode : InputMode) (code : String) :
    (i.input mode code).Returns fun x =>
      ∃ (k : Interpreter σ) (result : _), k.complete result = x := by
  cases mode with
  | expression =>
    rw [input, evaluate]
    cases expressionOf? code with
    | none => exact .pure ⟨_, _, rfl⟩
    | some e => exact .of_bind fun result => .pure ⟨_, _, rfl⟩
  | statements =>
    rw [input, execute]
    cases programOf? code with
    | none => exact .pure ⟨_, _, rfl⟩
    | some ss => exact .of_bind fun x => .pure ⟨_, _, rfl⟩

/-- A run that ends otherwise than without a value or with one leaves the exception behind that it
    reports. -/
theorem reported_of_input {mode : InputMode} {completion : Completion}
    (h : i.input mode code s = .ok ((completion, j), s')) :
    (completion = .noValue ∨ ∃ text, completion = .value text) ∨
      ∃ x, j.pending = some x ∧
        (completion = x.completion ∨ completion = .valueError x.text) := by
  obtain ⟨k, result, hresult⟩ := input_returns i mode code s _ s' h
  cases result with
  | error x =>
    rw [complete_error] at hresult
    cases hresult
    exact .inr ⟨x, rfl, .inl rfl⟩
  | ok o =>
    cases hrepr : o.repr with
    | error x =>
      rw [complete_of_unshown hrepr] at hresult
      cases hresult
      exact .inr ⟨x, rfl, .inr rfl⟩
    | ok text =>
      have hshown := complete_of_shown (i := k) hrepr
      rw [hresult] at hshown
      exact .inl (hshown.imp_right fun htext => ⟨text, htext⟩)

/-- Division by zero where a run comes to ends it, and is reported. -/
theorem Visits.input_of_zero {mode : InputMode} {left right : Expr} {a : Int64} {s₁ s₂ : σ}
    (h : i.Visits code s mode j (.binary .div left right) s')
    (hleft : (j.eval left).run s' = .ok (.ok (.int a), s₁))
    (hright : (j.eval right).run s₁ = .ok (.ok (.int 0), s₂)) :
    i.input mode code s = .ok ((.error "ZeroDivisionError: division by zero\n",
      { j with pending := some ⟨.zeroDivisionError, "division by zero"⟩ }), s₂) := by
  have hraises : (j.eval (.binary .div left right)).run s' =
      .ok (.error ⟨.zeroDivisionError, "division by zero"⟩, s₂) := by
    rw [eval, Raising.bind_run_of_ok hleft, Raising.bind_run_of_ok hright]
    rfl
  have hcompletion : Exception.completion ⟨.zeroDivisionError, "division by zero"⟩ =
      .error "ZeroDivisionError: division by zero\n" := by
    decide +kernel
  rw [h.input_of_raises hraises, hcompletion]

/-- The run of a source crashes only where an operation overflows, and every other failure of it
    is reported. -/
structure Accounted (i : Interpreter σ) (mode : InputMode) (code : String) (s : σ) : Prop where
  /-- A run crashes exactly if it comes to an operation that overflows. -/
  crash : ∀ crash, i.input mode code s = .error crash ↔
    crash = .overflow ∧ ∃ j e s', i.Visits code s mode j e s' ∧ j.Overflows e s'
  /-- A run that ends otherwise than without a value or with one leaves the exception behind that
      it reports. -/
  reported : ∀ completion j s', i.input mode code s = .ok ((completion, j), s') →
    (completion = .noValue ∨ ∃ text, completion = .value text) ∨
      ∃ x, j.pending = some x ∧ (completion = x.completion ∨ completion = .valueError x.text)
  /-- An exception of an expression ends the run, and is reported. -/
  raised : ∀ j e s' x s'', i.Visits code s mode j e s' →
    (j.eval e).run s' = .ok (.error x, s'') →
    i.input mode code s = .ok ((x.completion, { j with pending := some x }), s'')
  /-- An exception of a statement ends the run, and is reported. -/
  failed : ∀ j st s' x k s'', mode = .statements → i.Arrives code s j st s' →
    j.run st s' = .ok ((.error x, k), s'') →
    i.input mode code s = .ok ((x.completion, { k with pending := some x }), s'')
  /-- Division by zero ends the run, and is reported. -/
  divided : ∀ j left right s' a s₁ s₂, i.Visits code s mode j (.binary .div left right) s' →
    (j.eval left).run s' = .ok (.ok (.int a), s₁) →
    (j.eval right).run s₁ = .ok (.ok (.int 0), s₂) →
    i.input mode code s = .ok ((.error "ZeroDivisionError: division by zero\n",
      { j with pending := some ⟨.zeroDivisionError, "division by zero"⟩ }), s₂)
  /-- A value without a representation is reported as the failure of this. -/
  unshown : ∀ e o x s', mode = .expression → expressionOf? code = some e →
    (i.counted.eval e).run s = .ok (.ok o, s') → o.repr = .error x →
    i.input mode code s = .ok ((.valueError x.text, { i.counted with pending := some x }), s')
  /-- A source that cannot be read is reported, and nothing is done. -/
  unread : (mode = .expression → expressionOf? code = none) →
    (mode = .statements → programOf? code = none) →
    i.input mode code s = .ok ((.error "SyntaxError: invalid syntax\n",
      { i.counted with pending := some .badSource }), s)

theorem Sturdy.accounted (hi : i.Sturdy) (mode : InputMode) (code : String) (s : σ) :
    i.Accounted mode code s where
  crash := input_eq_error_iff hi mode code s
  reported _ _ _ h := reported_of_input h
  raised _ _ _ _ _ hvisits hraises := hvisits.input_of_raises hraises
  failed := by
    rintro j st s' x k s'' rfl harrives hraises
    exact harrives.execute_of_raises hraises
  divided _ _ _ _ _ _ _ hvisits hleft hright := hvisits.input_of_zero hleft hright
  unshown := by
    rintro e o x s' rfl hread hvalue hrepr
    rw [input, i.evaluate_eq hread, Run.map_apply, hvalue]
    exact congrArg (fun y => Except.ok (y, s')) (complete_of_unshown hrepr)
  unread hexpression hstatements := by
    cases mode with
    | expression => exact i.evaluate_of_none (hexpression rfl) s
    | statements => exact i.execute_of_none (hstatements rfl) s

end Interpreter

end LedBoard.Script
