import LedBoard.Proofs.Script.Frame
import LedBoard.Proofs.Script.Lines
import LedBoard.Proofs.Script.Modes

/-!
# Programs in sequence

A program that is made of two runs as the first of them does and then, unless an exception ended
it, as the second: the statements of both stand one behind the other, and a statement is run by
what the statements before it have left. The two runs count as one, and what is counted does not
matter to a run (`run_withRuns`, `runAll_withRuns`).

The journals of the two runs make up the journal of the one: what the first leaves behind in an
interpreter that keeps a journal goes on with it, and does what it would do with an empty one
(`exists_recorded`).

* `runAll_append`, `execute_append`: the run of statements behind others, and of two programs;
* `execute_two`: what the run of a source that is made of two has in common with their runs.
-/

namespace LedBoard.Script.Interpreter

variable {σ : Type} (i : Interpreter σ)

/-- The interpreter with another count of runs. -/
def withRuns (n : Nat) : Interpreter σ := { i with runs := n }

mutual

/-- The count of the runs has no bearing on the value of an expression. -/
theorem eval_withRuns (n : Nat) : ∀ e : Expr, (i.withRuns n).eval e = i.eval e
  | .int _ => by rw [eval, eval]
  | .str _ => by rw [eval, eval]
  | .name _ => by rw [eval, eval]; rfl
  | .neg e => by rw [eval, eval, eval_withRuns n e]
  | .binary _ left right => by rw [eval, eval, eval_withRuns n left, eval_withRuns n right]
  | .attr e _ => by rw [eval, eval, eval_withRuns n e]; rfl
  | .call callee args => by
    rw [eval, eval, eval_withRuns n callee, evalAll_withRuns n args]
    rfl

theorem evalAll_withRuns (n : Nat) : ∀ es : List Expr, (i.withRuns n).evalAll es = i.evalAll es
  | [] => by rw [evalAll, evalAll]
  | e :: rest => by rw [evalAll, evalAll, eval_withRuns n e, evalAll_withRuns n rest]

end

theorem bindFunctions_withRuns (n : Nat) (functions : List (String × Native σ)) :
    (i.withRuns n).bindFunctions functions = (i.bindFunctions functions).withRuns n := by
  induction functions generalizing i with
  | nil => rfl
  | cons a rest ih => exact ih (i.bind a.1 (.function a.1 a.2))

theorem bindModules_withRuns (n : Nat) (names : List String) :
    (i.withRuns n).bindModules names =
      ((i.bindModules names).1, (i.bindModules names).2.withRuns n) := by
  induction names generalizing i with
  | nil => rfl
  | cons name rest ih =>
    have hmodule : (i.withRuns n).moduleOf name = i.moduleOf name := rfl
    rw [bindModules, bindModules, hmodule]
    cases i.moduleOf name with
    | error e => rfl
    | ok m => exact ih (i.bind name (.module name))

/-- The count of the runs has no bearing on what a statement does, which leaves it as it is. -/
theorem run_withRuns (n : Nat) (s : Stmt) :
    (i.withRuns n).run s = (fun x => (x.1, x.2.withRuns n)) <$> i.run s := by
  have hmodule : ∀ name, (i.withRuns n).moduleOf name = i.moduleOf name := fun _ => rfl
  cases s with
  | expr e =>
    rw [run, run, eval_withRuns, map_bind]
    congr
    funext x
    cases x <;> rfl
  | assign target e =>
    rw [run, run, eval_withRuns, map_bind]
    congr
    funext x
    cases x <;> rfl
  | raise e =>
    rw [run, run, eval_withRuns, map_bind]
    congr
    funext x
    cases x <;> rfl
  | importModule name =>
    rw [run, run, hmodule]
    cases i.moduleOf name <;> rfl
  | importAll name =>
    rw [run, run, hmodule]
    cases i.moduleOf name with
    | error e => rfl
    | ok m =>
      dsimp only
      rw [bindFunctions_withRuns, bindModules_withRuns]
      rfl

/-- Nor on what statements do one after the other. -/
theorem runAll_withRuns (n : Nat) (ss : List Stmt) :
    (i.withRuns n).runAll ss = (fun x => (x.1, x.2.withRuns n)) <$> i.runAll ss := by
  induction ss generalizing i with
  | nil => rfl
  | cons s rest ih =>
    rw [runAll, runAll, run_withRuns, map_bind, bind_map_left]
    congr
    funext x
    obtain ⟨result, j⟩ := x
    cases result with
    | error e => rfl
    | ok _ => exact ih j

/-- A run of statements does not count as the run of a source. -/
theorem runs_runAll (ss : List Stmt) : (i.runAll ss).Returns fun x => x.2.runs = i.runs := by
  intro s x s' hrun
  -- The interpreter with the count that it has is the interpreter itself.
  have hself : i.runAll ss s = ((fun x => (x.1, x.2.withRuns i.runs)) <$> i.runAll ss) s :=
    congrFun (i.runAll_withRuns i.runs ss) s
  rw [Run.map_apply, hrun] at hself
  have hx : x = (x.1, x.2.withRuns i.runs) := (Prod.mk.inj (Except.ok.inj hself)).1
  rw [hx]
  rfl

/-- Statements behind others run where the others have run without an exception. -/
theorem runAll_append (ss more : List Stmt) :
    i.runAll (ss ++ more) = i.runAll ss >>= fun x =>
      match x with
      | (.ok (), j) => j.runAll more
      | (.error e, j) => pure (.error e, j) := by
  induction ss generalizing i with
  | nil => rfl
  | cons s rest ih =>
    rw [List.cons_append, runAll, runAll, bind_assoc]
    congr
    funext x
    obtain ⟨result, j⟩ := x
    cases result with
    | error e => rfl
    | ok _ => exact ih j

/-! ## Two programs -/

variable {i} in
/-- A program that ended with an exception has left it behind, and has not ended without a
    value. -/
theorem complete_error_ne (e : Exception) : (i.complete (.error e)).1 ≠ .noValue := by
  rw [complete]
  dsimp only
  split <;> simp

/-- How a program goes that is made of two: it goes on with the second where the first ends
    without a value, in one run. -/
theorem execute_append {p q : String} {ss more : List Stmt} (hp : programOf? p = some ss)
    (hq : programOf? q = some more) (s : σ) :
    i.execute (p ++ "\n" ++ q) s =
      match i.execute p s with
      | .ok ((.noValue, j), s') =>
        (j.execute q s').map fun x => ((x.1.1, x.1.2.withRuns j.runs), x.2)
      | other => other := by
  have hboth : programOf? (p ++ "\n" ++ q) = some (ss ++ more) := by
    rw [programOf?_append, hp, hq]
    rfl
  rw [i.execute_eq hboth, i.execute_eq hp, runAll_append, Run.map_apply, Run.map_apply]
  change Except.map _ (i.counted.runAll ss s >>= fun x => _) = _
  cases i.counted.runAll ss s with
  | error crash => rfl
  | ok x =>
    obtain ⟨⟨result, j⟩, s'⟩ := x
    cases result with
    | error e =>
      change Except.ok (j.complete (.error e), s') = _
      dsimp only [Except.map]
      split
      · next heq =>
        have hvalue := congrArg Prod.fst (Prod.mk.inj (Except.ok.inj heq)).1
        exact absurd hvalue (complete_error_ne e)
      · rfl
    | ok _ =>
      -- As a run of its own the second part is counted, and that makes no other difference.
      change Except.map _ (j.runAll more s') = Except.map _ (j.execute q s')
      have hcounted : j.counted.runAll more =
          (fun x => (x.1, x.2.withRuns (j.runs + 1))) <$> j.runAll more := j.runAll_withRuns _ more
      rw [j.execute_eq hq, hcounted, Functor.map_map, Run.map_apply]
      cases hrun : j.runAll more s' with
      | error crash => rfl
      | ok x =>
        obtain ⟨⟨result, k⟩, s''⟩ := x
        have hruns : k.runs = j.runs := runs_runAll j more _ _ _ hrun
        rw [← hruns]
        cases result <;> rfl

/-! ## Journals -/

/-- The same hosts, of which one has a longer journal beside it: `deeds` came before. -/
def Behind (deeds : List Deed) (w v : List Deed × σ) : Prop :=
  w.1 = deeds ++ v.1 ∧ w.2 = v.2

theorem recorded_behind (deeds : List Deed) (name : String) (f : Native σ) :
    Native.Sim (Behind deeds) (Native.recorded name f) (Native.recorded name f) := by
  rintro args w ⟨journal, s⟩ ⟨hjournal, rfl⟩
  rw [Native.recorded_apply, Native.recorded_apply, hjournal]
  cases (f args).run w.2 with
  | error crash => exact .failed crash
  | ok x => exact .returned ⟨.refl x.1, List.append_assoc .., rfl⟩

variable {i} in
/-- What a run leaves behind in an interpreter that keeps a journal goes on with the journal as
    what it leaves behind without one starts its own. -/
theorem exists_recorded {mode : InputMode} {code : String} {s s' : σ} {completion : Completion}
    {j : Interpreter σ} (hrun : i.input mode code s = .ok ((completion, j), s')) :
    ∃ k deeds, i.recorded.input mode code ([], s) = .ok ((completion, k), (deeds, s')) ∧
      i.deeds? mode code s = some deeds ∧
      ∀ before, Sim (Behind before)
        (fun name f g => f = g ∧ ∃ f', f = Native.recorded name f') (fun _ => True) k j.recorded := by
  have hall : i.Only fun _ _ => True := .of_forall fun _ _ => trivial
  have hsim := (hall.recorded_sim (K := fun _ _ => True) (fun _ _ _ _ _ _ _ _ => trivial)
    fun _ _ _ _ => trivial).input mode code ([], s) s ⟨rfl, trivial⟩
  rw [hrun] at hsim
  -- The run with a journal ends as the one without; what it leaves behind differs in its functions
  -- only.
  generalize hrecorded : i.recorded.input mode code ([], s) = x at hsim
  cases hsim with
  | @returned x _ hend =>
    obtain ⟨⟨completion', k⟩, deeds, t⟩ := x
    obtain ⟨⟨rfl, hk⟩, rfl, -⟩ := hend
    have hprint : k.print = j.recorded.print := by
      rw [(input_frame _ mode code _ _ _ hrecorded).print]
      change (some _ : Option (String → List Deed × σ → List Deed × σ)) = some _
      rw [(input_frame i mode code _ _ _ hrun).print]
    refine ⟨k, deeds, rfl, by rw [deeds?, hrecorded], fun before => ⟨?_, ?_, ?_, hk.pending, hk.runs⟩⟩
    · have hbound : Bound (fun name f g => f = g ∧ ∃ f', f = Native.recorded name f')
          (fun _ => True) (k.rewire (fun _ f => f) k.print) j.recorded :=
        hk.toBound.rewire (fun hf => ⟨hf.1, _, hf.1⟩) k.print j.recorded.print
      rwa [rewire_self] at hbound
    · rintro name f _ ⟨rfl, f', rfl⟩
      exact recorded_behind before name f'
    · rintro chunk w ⟨journal, t⟩ ⟨hjournal, rfl⟩
      rw [write_apply, write_apply, hprint]
      refine .returned ⟨.returned rfl, ?_, rfl⟩
      change w.1 ++ _ = _
      rw [hjournal, List.append_assoc]
      rfl

/-! ## The deeds of two programs -/

variable {i}

/-- A second program that does not run adds nothing to the journal. -/
theorem deeds?_append_of_ne {p q : String} {ss more : List Stmt} (hp : programOf? p = some ss)
    (hq : programOf? q = some more) {s s' : σ} {completion : Completion} {j : Interpreter σ}
    (hne : completion ≠ .noValue) (hrun : i.execute p s = .ok ((completion, j), s')) :
    i.deeds? .statements (p ++ "\n" ++ q) s = i.deeds? .statements p s := by
  have hinput : i.input .statements p s = .ok ((completion, j), s') := hrun
  obtain ⟨k, deeds, hrecorded, hdeeds, -⟩ := exists_recorded hinput
  rw [input] at hrecorded
  rw [hdeeds, deeds?, input, i.recorded.execute_append hp hq, hrecorded]
  cases completion with
  | noValue => exact absurd rfl hne
  | _ => rfl

/-- A second program that runs adds its deeds to the journal. -/
theorem deeds?_append {p q : String} {ss more : List Stmt} (hp : programOf? p = some ss)
    (hq : programOf? q = some more) {s s' s'' : σ} {completion : Completion}
    {j k : Interpreter σ} {deeds deeds' : List Deed}
    (hrun : i.execute p s = .ok ((.noValue, j), s')) (hdeeds : i.deeds? .statements p s = some deeds)
    (hrun' : j.execute q s' = .ok ((completion, k), s''))
    (hdeeds' : j.deeds? .statements q s' = some deeds') :
    i.deeds? .statements (p ++ "\n" ++ q) s = some (deeds ++ deeds') := by
  have hinput : i.input .statements p s = .ok ((.noValue, j), s') := hrun
  have hinput' : j.input .statements q s' = .ok ((completion, k), s'') := hrun'
  obtain ⟨i', journal, hrecorded, hjournal, hsim⟩ := exists_recorded hinput
  obtain ⟨j', journal', hrecorded', hjournal', -⟩ := exists_recorded hinput'
  cases hdeeds.symm.trans hjournal
  cases hdeeds'.symm.trans hjournal'
  rw [input] at hrecorded hrecorded'
  -- The second journal starts where the first one ended.
  have hsecond := (hsim deeds).execute q (fun _ _ _ _ _ _ => trivial) (deeds, s') ([], s')
    ⟨(List.append_nil _).symm, rfl⟩
  rw [hrecorded'] at hsecond
  rw [deeds?, input, i.recorded.execute_append hp hq, hrecorded]
  dsimp only
  generalize i'.execute q (deeds, s') = x at hsecond ⊢
  cases hsecond with
  | returned hend => exact congrArg some hend.2.1

variable (i)

theorem execute_of_none {code : String} (h : programOf? code = none) (s : σ) :
    i.execute code s = .ok ((.error "SyntaxError: invalid syntax\n",
      { i.counted with pending := some .badSource }), s) := by
  rw [execute, h]
  change Except.ok (i.counted.complete (.error .badSource), s) = _
  rw [complete_badSource]

/-- A source that is made of two, with the end of a line between them, is a program exactly if
    both are. Then it crashes if the first crashes, and ends as the first does if this ends with
    an exception, leaving the same behind and having done the same. If the first ends without a
    value, it goes on as the second does from there: it crashes or ends alike, leaves the same
    behind but for the count of runs, and has done what both do. If one of the two is no
    program, nothing is done. -/
theorem execute_two (s : σ) (p q : String) :
    ((programOf? (p ++ "\n" ++ q)).isSome = true ↔
      (programOf? p).isSome = true ∧ (programOf? q).isSome = true) ∧
    (∀ ss more, programOf? p = some ss → programOf? q = some more →
      (∃ crash, i.execute p s = .error crash ∧
        i.execute (p ++ "\n" ++ q) s = .error crash) ∨
      (∃ completion j s' deeds, completion ≠ .noValue ∧
        i.execute p s = .ok ((completion, j), s') ∧ i.deeds? .statements p s = some deeds ∧
        i.execute (p ++ "\n" ++ q) s = .ok ((completion, j), s') ∧
        i.deeds? .statements (p ++ "\n" ++ q) s = some deeds) ∨
      ∃ j s' deeds, i.execute p s = .ok ((.noValue, j), s') ∧
        i.deeds? .statements p s = some deeds ∧
        ((∃ crash, j.execute q s' = .error crash ∧
            i.execute (p ++ "\n" ++ q) s = .error crash) ∨
          ∃ completion k s'' deeds', j.execute q s' = .ok ((completion, k), s'') ∧
            j.deeds? .statements q s' = some deeds' ∧
            i.execute (p ++ "\n" ++ q) s = .ok ((completion, k.withRuns j.runs), s'') ∧
            i.deeds? .statements (p ++ "\n" ++ q) s = some (deeds ++ deeds'))) ∧
    (programOf? p = none ∨ programOf? q = none →
      i.execute (p ++ "\n" ++ q) s = .ok ((.error "SyntaxError: invalid syntax\n",
        { i.counted with pending := some .badSource }), s) ∧
      i.deeds? .statements (p ++ "\n" ++ q) s = some []) := by
  refine ⟨?_, ?_, ?_⟩
  · rw [isSome_programOf?_append, Bool.and_eq_true]
  · intro ss more hp hq
    have hboth := i.execute_append hp hq s
    -- The run of the first part decides: it crashes, ends early, or hands over to the second.
    cases hrun : i.execute p s with
    | error crash =>
      rw [hrun] at hboth
      exact .inl ⟨crash, rfl, hboth⟩
    | ok x =>
      obtain ⟨⟨completion, j⟩, s'⟩ := x
      obtain ⟨deeds, hdeeds⟩ : ∃ deeds, i.deeds? .statements p s = some deeds :=
        i.exists_deeds hrun
      rw [hrun] at hboth
      by_cases hvalue : completion = .noValue
      · subst hvalue
        dsimp only at hboth
        refine .inr (.inr ⟨j, s', deeds, rfl, hdeeds, ?_⟩)
        cases hrun' : j.execute q s' with
        | error crash =>
          rw [hrun'] at hboth
          exact .inl ⟨crash, rfl, hboth⟩
        | ok x =>
          obtain ⟨⟨completion, k⟩, s''⟩ := x
          obtain ⟨deeds', hdeeds'⟩ : ∃ deeds, j.deeds? .statements q s' = some deeds :=
            j.exists_deeds hrun'
          rw [hrun'] at hboth
          exact .inr ⟨completion, k, s'', deeds', rfl, hdeeds', hboth,
            deeds?_append hp hq hrun hdeeds hrun' hdeeds'⟩
      · refine .inr (.inl ⟨completion, j, s', deeds, hvalue, rfl, hdeeds, ?_, ?_⟩)
        · cases completion with
          | noValue => exact absurd rfl hvalue
          | _ => exact hboth
        · rw [deeds?_append_of_ne hp hq hvalue hrun, hdeeds]
  · intro h
    have hnone : programOf? (p ++ "\n" ++ q) = none := by
      rw [programOf?_append]
      rcases h with h | h
      · rw [h]
        rfl
      · rw [h]
        cases programOf? p <;> rfl
    refine ⟨i.execute_of_none hnone s, ?_⟩
    rw [deeds?, input, i.recorded.execute_of_none hnone]

end LedBoard.Script.Interpreter
