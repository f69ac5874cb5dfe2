import LedBoard.Proofs.Script.Journal
import LedBoard.Proofs.Script.Recognition
import LedBoard.Proofs.Script.Scan

/-!
# The two modes agree

A source that is one expression can be run as an expression, which cuts off the white space
around it and reads the expression alone, and as a program, which reads it with the ends of lines
before and behind it as statements. Both modes read the same tree: the ends of lines are all that
is cut off, and a program that is an expression between ends of lines is derived as one statement
that is this expression. So the two modes run the same, and differ in what they make of its value.

* `programOf?_of_expressionOf?`: an expression is read as the program of this one statement;
* `execute_of_expressionOf?`: the run as a program, in terms of the run as an expression;
* `modes_agree`: what the two runs have in common, and where they differ.
-/

namespace LedBoard

/-- How statements end where an expression ends so: they have no value. -/
def Completion.asStatements : Completion → Completion
  | .value _ | .valueError _ => .noValue
  | other => other

namespace Script

open Grammar

variable {σ : Type}

theorem programOf?_of_expressionOf? {code : String} {e : Expr}
    (h : expressionOf? code = some e) : programOf? code = some [.expr e] := by
  obtain ⟨d, hts, rfl⟩ := expressionOf?_eq_some_iff.1 h
  obtain ⟨n, m, hcode⟩ := tokenize_of_trimChars hts
  rw [programOf?, hcode, Option.bind_eq_bind, Option.bind_some]
  exact read_program (.statements n (.last (.expr d) m))

namespace Interpreter

variable (i j : Interpreter σ)

/-- What the run as a program leaves behind where the run as an expression leaves this: the
    interpreter `i` from before had no value to represent. -/
def withoutValue : Completion × Interpreter σ → Completion × Interpreter σ
  | (.valueError _, after) => (.noValue, { after with pending := i.pending })
  | (completion, after) => (completion.asStatements, after)

/-- The result of an expression whose value is dropped is reported as the result is, without the
    value. -/
theorem complete_withoutValue (h : j.pending = i.pending)
    (result : Except Exception (Object σ)) :
    j.complete (result.map fun _ => .none) = i.withoutValue (j.complete result) := by
  cases result with
  | error e =>
    simp only [Except.map, complete]
    cases e.asksToExit with
    | true => rfl
    | false => rfl
  | ok o =>
    cases o with
    | bool b => cases b <;> rfl
    | unprintable =>
      -- Only here the run as an expression leaves an exception that the statement cannot raise.
      change (Completion.noValue, j) = (Completion.noValue, { j with pending := i.pending })
      rw [← h]
    | _ => rfl

/-- What the two runs have in common, and where they differ. -/
theorem withoutValue_spec (x : Completion × Interpreter σ) :
    (i.withoutValue x).2.globals = x.2.globals ∧ (i.withoutValue x).2.modules = x.2.modules ∧
      (i.withoutValue x).2.runs = x.2.runs ∧ (i.withoutValue x).1 = x.1.asStatements ∧
      ((∀ text, x.1 ≠ .valueError text) → (i.withoutValue x).2.pending = x.2.pending) ∧
      ∀ text, x.1 = .valueError text → (i.withoutValue x).2.pending = i.pending := by
  obtain ⟨completion, after⟩ := x
  cases completion with
  | valueError text => exact ⟨rfl, rfl, rfl, rfl, fun h => absurd rfl (h text), fun _ _ => rfl⟩
  | _ => exact ⟨rfl, rfl, rfl, rfl, fun _ => rfl, fun _ h => by cases h⟩

variable {i} in
/-- A value whose representation fails leaves the exception that says so. -/
theorem complete_valueError {result : Except Exception (Object σ)} {text : String}
    (h : (i.complete result).1 = .valueError text) :
    ∃ value error, result = .ok value ∧ value.repr = .error error ∧ text = error.text ∧
      (i.complete result).2.pending = some error := by
  cases result with
  | error e =>
    simp only [complete] at h
    split at h <;> cases h
  | ok o =>
    cases o with
    | unprintable =>
      injection h with htext
      exact ⟨.unprintable, _, rfl, rfl, htext.symm, rfl⟩
    | bool b => cases b <;> cases h
    | _ => cases h

/-- A source that cannot be read is reported as a syntax error. -/
theorem complete_badSource :
    i.complete (.error .badSource) =
      (.error "SyntaxError: invalid syntax\n", { i with pending := some .badSource }) := by
  have hexit : Exception.badSource.asksToExit = false := by
    simp [Exception.asksToExit, Exception.badSource, ExceptionClass.derivesFrom,
      ExceptionClass.parent]
  rw [complete, hexit]
  rfl

/-- A source that is no expression does nothing when it is run as one. -/
theorem evaluate_of_none {code : String} (h : expressionOf? code = none) (s : σ) :
    i.evaluate code s = .ok ((.error "SyntaxError: invalid syntax\n",
      { i.counted with pending := some .badSource }), s) := by
  rw [evaluate, h]
  change Except.ok (i.counted.complete (.error .badSource), s) = _
  rw [complete_badSource]

/-- A statement that is an expression runs as the expression does. -/
theorem runAll_expr (e : Expr) :
    i.runAll [.expr e] = (fun result => (result.map fun _ => (), i)) <$> (i.eval e).run := by
  rw [runAll, run, bind_assoc, map_eq_pure_bind]
  congr
  funext result
  cases result with
  | error e => rfl
  | ok o => rfl

theorem evaluate_eq {code : String} {e : Expr} (h : expressionOf? code = some e) :
    i.evaluate code = i.counted.complete <$> (i.counted.eval e).run := by
  rw [evaluate, h]
  rfl

theorem execute_eq {code : String} {ss : List Stmt} (h : programOf? code = some ss) :
    i.execute code =
      (fun x => x.2.complete (x.1.map fun _ => .none)) <$> i.counted.runAll ss := by
  rw [execute, h]
  rfl

/-- A source that is an expression runs as a program as it does as an expression, but for the value.
    -/
theorem execute_of_expressionOf? {code : String} {e : Expr} (h : expressionOf? code = some e) :
    i.execute code = i.withoutValue <$> i.evaluate code := by
  rw [i.execute_eq (programOf?_of_expressionOf? h), i.evaluate_eq h, runAll_expr,
    Functor.map_map, Functor.map_map]
  congr
  funext result
  rw [← complete_withoutValue i i.counted rfl]
  cases result with
  | error e => rfl
  | ok o => rfl

theorem deeds?_of_expressionOf? {code : String} {e : Expr} (h : expressionOf? code = some e)
    (s : σ) : i.deeds? .statements code s = i.deeds? .expression code s := by
  rw [deeds?, deeds?, input, input, i.recorded.execute_of_expressionOf? h, Run.map_apply]
  cases i.recorded.evaluate code ([], s) with
  | error crash => rfl
  | ok x => rfl

/-- Where a source is an expression, both modes crash alike, or print the same chunks, make the
    same native calls in the same order, and leave the same host, globals, modules and count of
    runs behind. The run as a program has no value to tell; if a value has no representation,
    the run as an expression leaves the exception that says so, and the run as a program the
    one from before. A source that is no expression does nothing when it is run as one. -/
theorem modes_agree (s : σ) (code : String) :
    (∀ e, expressionOf? code = some e →
      (∃ crash, i.evaluate code s = .error crash ∧ i.execute code s = .error crash) ∨
      ∃ completion after completion' after' deeds s',
        i.evaluate code s = .ok ((completion, after), s') ∧
        i.execute code s = .ok ((completion', after'), s') ∧
        i.deeds? .expression code s = some deeds ∧ i.deeds? .statements code s = some deeds ∧
        after'.globals = after.globals ∧ after'.modules = after.modules ∧
        after'.runs = after.runs ∧ completion' = completion.asStatements ∧
        ((∀ text, completion ≠ .valueError text) → after'.pending = after.pending) ∧
        ∀ text, completion = .valueError text → after'.pending = i.pending ∧
          ∃ (value : Object σ) (error : Exception),
            (i.counted.eval e).run s = .ok (.ok value, s') ∧
            value.repr = .error error ∧ text = error.text ∧ after.pending = some error) ∧
    (expressionOf? code = none →
      i.evaluate code s = .ok ((.error "SyntaxError: invalid syntax\n",
        { i.counted with pending := some .badSource }), s) ∧
      i.deeds? .expression code s = some []) := by
  constructor
  · intro e h
    have hevaluate : i.evaluate code s = ((i.counted.eval e).run s).map fun x =>
        (i.counted.complete x.1, x.2) := by
      rw [i.evaluate_eq h, Run.map_apply]
    have hexecute : i.execute code s = (i.evaluate code s).map fun x =>
        (i.withoutValue x.1, x.2) := by
      rw [i.execute_of_expressionOf? h, Run.map_apply]
    -- Both runs are the one evaluation of the expression, reported in two ways.
    cases hvalue : (i.counted.eval e).run s with
    | error crash =>
      rw [hvalue] at hevaluate
      rw [hevaluate] at hexecute
      exact .inl ⟨crash, hevaluate, hexecute⟩
    | ok x =>
      obtain ⟨result, s'⟩ := x
      rw [hvalue] at hevaluate
      rw [hevaluate] at hexecute
      obtain ⟨deeds, hdeeds⟩ : ∃ deeds, i.deeds? .expression code s = some deeds :=
        i.exists_deeds hevaluate
      obtain ⟨hglobals, hmodules, hruns, hcompletion, hpending, hearlier⟩ :=
        i.withoutValue_spec (i.counted.complete result)
      refine .inr ⟨_, _, _, _, deeds, s', hevaluate, hexecute, hdeeds,
        (i.deeds?_of_expressionOf? h s).trans hdeeds, hglobals, hmodules, hruns, hcompletion,
        hpending, fun text htext => ⟨hearlier text htext, ?_⟩⟩
      obtain ⟨value, error, rfl, hrepr, herror, hleft⟩ := complete_valueError htext
      exact ⟨value, error, rfl, hrepr, herror, hleft⟩
  · intro h
    refine ⟨i.evaluate_of_none h s, ?_⟩
    rw [deeds?, input, i.recorded.evaluate_of_none h]

end Interpreter

end Script

end LedBoard
