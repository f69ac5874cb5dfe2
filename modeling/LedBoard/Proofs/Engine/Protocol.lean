import LedBoard.Proofs.Session.Calls
import LedBoard.Proofs.Simulator.Calls
import LedBoard.Script.Interpreter

/-!
# The protocol of interpreters

What a session and the run of a program call holds for every engine (`call_protocol`). Two things
can be said besides if something is known of the engine. If none of its operations crashes, what
calls them returns. And if an instance that was given nothing leaves the host alone, then so does
the checker of a session: what a line of input does to the host is done by the live instance.

* `Engine.Steady`, `Engine.Confined`: what may be known of an engine;
* `Session.runLine`: a line of input without the checker.
-/

namespace LedBoard

variable {σ κ ι α : Type}

/-! ## Engines that do not crash -/

theorem Run.CrashFree.onHost (f : σ → α × σ) : CrashFree (Run.onHost f : Run (κ × σ) α) :=
  fun _ => ⟨_, rfl⟩

namespace Engine

/-- No operation of the engine crashes. -/
structure Steady (e : Engine σ κ ι) : Prop where
  create : ∀ config, (e.create config).CrashFree
  setGlobalFunction : ∀ i name f, (e.setGlobalFunction i name f).CrashFree
  registerModule : ∀ i m, (e.registerModule i m).CrashFree
  clearException : ∀ i, (e.clearException i).CrashFree
  compilesAsExpression : ∀ i code, (e.compilesAsExpression i code).CrashFree
  evaluate : ∀ i code, (e.evaluate i code).CrashFree
  execute : ∀ i code, (e.execute i code).CrashFree
  drop : ∀ i, (e.drop i).CrashFree

namespace Steady

theorem setGlobalFunctions {e : Engine σ κ ι} (he : e.Steady) (i : ι)
    (functions : List (String × Native σ)) : (e.setGlobalFunctions i functions).CrashFree := by
  induction functions generalizing i with
  | nil => exact .pure _
  | cons a rest ih =>
    refine (he.setGlobalFunction i a.1 a.2).bind ?_
    rintro ⟨_ | _, i'⟩
    · exact .pure _
    · exact ih i'

theorem registerModules {e : Engine σ κ ι} (he : e.Steady) (i : ι) (ms : List (Module σ)) :
    (e.registerModules i ms).CrashFree := by
  induction ms generalizing i with
  | nil => exact .pure _
  | cons m rest ih =>
    refine (he.registerModule i m).bind ?_
    rintro ⟨_ | _, i'⟩
    · exact .pure _
    · exact ih i'

variable {e : Engine Host κ ι}

theorem abandon (he : e.Steady) (i : ι) (cause : OpenError) :
    (Session.abandon e i cause).CrashFree :=
  (he.drop i).bind fun _ => .pure _

/-- Opening a session crashes nowhere but in the interpreter. -/
theorem openWith (he : e.Steady) (config : Config) : (Session.openWith e config).CrashFree := by
  refine (he.create _).bind ?_
  rintro (_ | live)
  · exact .pure _
  refine (he.setGlobalFunctions live _).bind ?_
  rintro ⟨_ | _, live'⟩
  · exact he.abandon live' _
  refine (he.create _).bind ?_
  rintro (_ | checker)
  · exact he.abandon live' _
  · exact (Run.CrashFree.onHost _).bind fun _ => .pure _

/-- Neither does running a source, in either mode. -/
theorem runAs (he : e.Steady) (isExpression : Bool) (i : ι) (code : String) :
    (Session.runAs e isExpression i code).CrashFree := by
  cases isExpression with
  | true => exact he.evaluate i code
  | false => exact he.execute i code

/-- Neither does a line of input. -/
theorem line (he : e.Steady) (s : Session ι) (code : String) :
    (Session.execute e s code).CrashFree := by
  rw [Session.execute_eq]
  refine (he.clearException _).bind fun checker => ?_
  refine (he.compilesAsExpression checker code).bind fun x => ?_
  refine (he.runAs x.1 s.live code).bind fun y => ?_
  refine (Run.CrashFree.onHost _).bind fun _ => (Run.CrashFree.onHost _).bind fun _ => ?_
  exact (he.clearException _).bind fun _ => .pure _

/-- Neither does a program. -/
theorem program (he : e.Steady) (config : Config) (code : String) :
    (Simulator.run e config code).CrashFree := by
  refine (he.create _).bind ?_
  rintro (_ | i)
  · exact .pure _
  refine (he.registerModules i _).bind ?_
  rintro ⟨_ | _, i'⟩
  · exact (he.drop i').bind fun _ => .pure _
  refine (Run.CrashFree.onHost _).bind fun _ => (he.execute i' code).bind fun _ => ?_
  refine (Run.CrashFree.onHost _).bind fun _ => (he.clearException _).bind fun _ => ?_
  exact (he.drop _).bind fun _ => .pure _

end Steady

/-! ## Engines that act through what they are given -/

/-- Whatever the run returns, `P` is true of it, and the host is left alone. -/
def Apart (m : Run (κ × σ) α) (P : α → Prop) : Prop :=
  ∀ w a w', m w = .ok (a, w') → P a ∧ w'.2 = w.2

/-- An instance that is given nothing to print with, and no functions, is `bare`, and remains so
    when it is cleared or asked about a source; none of this does anything to the host. -/
structure Confined (e : Engine σ κ ι) (bare : ι → Prop) : Prop where
  create : Apart (e.create {}) fun r => ∀ i, r = .ok i → bare i
  clearException : ∀ i, bare i → Apart (e.clearException i) bare
  compilesAsExpression : ∀ i code, bare i →
    Apart (e.compilesAsExpression i code) fun x => bare x.2

end Engine

namespace Session

variable (e : Engine Host κ ι)

/-- A line of input without the checker, of which it is known whether it is an expression. -/
def runLine (isExpression : Bool) (live : ι) (code : String) : Run (κ × Host) (Completion × ι) := do
  let y ← runAs e isExpression live code
  act (Host.emit · (.inputRun (modeFor isExpression)))
  act (report y.1)
  let live ← e.clearException y.2
  return (y.1, live)

variable {e} {bare : ι → Prop}

/-- The second interpreter of a session is as it is when nothing is given to it. -/
theorem openWith_bare (he : e.Confined bare) {config : Config} {w w' : κ × Host} {s : Session ι}
    (h : openWith e config w = .ok (.ok s, w')) : bare s.checker := by
  -- All ways out of the opening but the last leave no session.
  obtain ⟨_ | live, w₁, -, h⟩ := Run.exists_of_bind h
  · cases h
  obtain ⟨⟨_ | _, live'⟩, w₂, -, h⟩ := Run.exists_of_bind h
  · obtain ⟨_, _, -, h⟩ := Run.exists_of_bind h
    cases h
  obtain ⟨_ | checker, w₃, hcreate, h⟩ := Run.exists_of_bind h
  · obtain ⟨_, _, -, h⟩ := Run.exists_of_bind h
    cases h
  obtain ⟨_, _, -, h⟩ := Run.exists_of_bind h
  cases h
  exact (he.create _ _ _ hcreate).1 checker rfl

/-- What a line of input does to the host is what it does without the checker. -/
theorem execute_bare (he : e.Confined bare) {s s' : Session ι} {code : String} {w w' : κ × Host}
    {mode : InputMode} (hs : bare s.checker)
    (h : execute e s code w = .ok ((mode, s'), w')) :
    bare s'.checker ∧ ∃ shared isExpression completion,
      runLine e isExpression s.live code (shared, w.2) = .ok ((completion, s'.live), w') ∧
      mode = modeFor isExpression ∧ s'.shouldExit = (completion == .exit) := by
  rw [execute_eq] at h
  obtain ⟨checker, w₁, hclear, h⟩ := Run.exists_of_bind h
  obtain ⟨hchecker, hw₁⟩ := he.clearException _ hs _ _ _ hclear
  obtain ⟨⟨isExpression, checker'⟩, w₂, hasked, h⟩ := Run.exists_of_bind h
  obtain ⟨hchecker', hw₂⟩ := he.compilesAsExpression _ _ hchecker _ _ _ hasked
  obtain ⟨y, w₃, hrun, h⟩ := Run.exists_of_bind h
  obtain ⟨_, w₄, hemitted, h⟩ := Run.exists_of_bind h
  obtain ⟨_, w₅, hreported, h⟩ := Run.exists_of_bind h
  obtain ⟨live, w₆, hcleared, h⟩ := Run.exists_of_bind h
  cases h
  refine ⟨hchecker', w₂.1, isExpression, y.1, ?_, rfl, rfl⟩
  rw [← hw₁, ← hw₂, runLine, Run.bind_of_ok hrun, Run.bind_of_ok hemitted,
    Run.bind_of_ok hreported, Run.bind_of_ok hcleared]
  rfl

theorem History.checker_bare (he : e.Confined bare) {s s' : Session ι} {w w' : κ × Host}
    {codes : List String} (h : History e s w codes s' w') (hs : bare s.checker) :
    bare s'.checker := by
  induction h with
  | nil => exact hs
  | onHost _ _ ih => exact ih
  | execute _ hexecute ih => exact (execute_bare he ih hexecute).1

end Session

/-! ## Engines of which this is known -/

/-- An interpreter that follows a plan does not crash. -/
theorem Plan.engine_steady : (Plan.engine : Engine σ Plan.Record (Plan.Instance σ)).Steady where
  create config := by
    rintro ⟨r, h⟩
    by_cases hfail : r.plan.failCreate = some r.created
    · exact ⟨_, if_pos hfail⟩
    · exact ⟨_, if_neg hfail⟩
  setGlobalFunction _ _ _ _ := ⟨_, rfl⟩
  registerModule _ _ _ := ⟨_, rfl⟩
  clearException _ _ := ⟨_, rfl⟩
  compilesAsExpression _ _ _ := ⟨_, rfl⟩
  evaluate _ _ _ := ⟨_, rfl⟩
  execute _ _ _ := ⟨_, rfl⟩
  drop _ _ := ⟨_, rfl⟩

/-- Asked about sources only, and given nothing to print by, it leaves the host alone. -/
theorem Plan.engine_confined :
    (Plan.engine : Engine σ Plan.Record (Plan.Instance σ)).Confined (·.print = none) where
  create := by
    rintro ⟨r, h⟩ a w' hcreate
    by_cases hfail : r.plan.failCreate = some r.created
    · cases (if_pos hfail).symm.trans hcreate
      exact ⟨nofun, rfl⟩
    · cases (if_neg hfail).symm.trans hcreate
      refine ⟨?_, rfl⟩
      rintro _ ⟨⟩
      rfl
  clearException := by
    rintro i hi w _ _ ⟨⟩
    exact ⟨hi, rfl⟩
  compilesAsExpression := by
    rintro i code hi w _ _ ⟨⟩
    exact ⟨hi, rfl⟩

/-- So does an interpreter of the script language. -/
theorem Script.engine_confined :
    (Script.engine : Engine σ Script.Supply (Script.Interpreter σ)).Confined (·.print = none) where
  create := by
    rintro ⟨supply, h⟩ _ _ ⟨⟩
    refine ⟨fun i hi => ?_, rfl⟩
    split at hi
    · cases hi
      rfl
    · cases hi
  clearException := by
    rintro i hi w _ _ ⟨⟩
    exact ⟨hi, rfl⟩
  compilesAsExpression := by
    rintro i code hi w _ _ ⟨⟩
    exact ⟨hi, rfl⟩

/-! ## The protocol -/

/-- For every engine, whatever its instances answer and wherever they fail: an opening makes its
    four calls up to the first failure; a line of input clears and asks the checker, and runs the
    line and clears the live instance; so the exchanges of a session are in order; and a program
    sets up its interpreter up to the first failure, and is run once and cleared. The watch
    changes nothing else. If the engine does not crash, all of this returns; if it does nothing
    beside what it is given, the checker leaves the host alone. -/
theorem call_protocol (e : Engine Host κ ι) (config : Config) :
    (∀ w r w', Session.openWith e.watched config w = .ok (r, w') →
      ∃ xs, w'.1.log = w.1.log ++ xs ∧ Session.Opened config w.1.created r xs) ∧
    (∀ s code w mode s' w', Session.execute e.watched s code w = .ok ((mode, s'), w') →
      ∃ r : Session.Round, r.code = code ∧
        w'.1.log = w.1.log ++ r.exchanges s.live.number s.checker.number ∧
        mode = Session.modeFor r.isExpression ∧ s'.shouldExit = (r.completion == .exit) ∧
        s'.live.number = s.live.number ∧ s'.checker.number = s.checker.number) ∧
    (∀ w s w₁ codes s' w', Session.openWith e.watched config w = .ok (.ok s, w₁) →
      Session.History e.watched s w₁ codes s' w' →
      ∃ rounds : List Session.Round, rounds.map Session.Round.code = codes ∧
        ∃ xs, xs = (Session.openingCalls config w.1.created).map .ofDone ++
            rounds.flatMap (Session.Round.exchanges w.1.created (w.1.created + 1)) ∧
          w'.1.log = w.1.log ++ xs ∧ Session.Orderly w.1.created codes xs) ∧
    (∀ code w r w', Simulator.run e.watched config code w = .ok (r, w') →
      ∃ xs, w'.1.log = w.1.log ++ xs ∧ Simulator.Ran config w.1.created code r xs) ∧
    Run.Sim Watch.Same (Ended Session.Is) (Session.openWith e.watched config)
      (Session.openWith e config) ∧
    (∀ s t code, Session.Is s t → Run.Sim Watch.Same (fun x y => x.1 = y.1 ∧ x.2.Is y.2)
      (Session.execute e.watched s code) (Session.execute e t code)) ∧
    (∀ code, Run.Sim Watch.Same Eq (Simulator.run e.watched config code)
      (Simulator.run e config code)) ∧
    (e.Steady → (Session.openWith e config).CrashFree ∧
      (∀ s code, (Session.execute e s code).CrashFree) ∧
      ∀ code, (Simulator.run e config code).CrashFree) ∧
    ∀ bare, e.Confined bare → ∀ w s w₁ codes s₁ w₂ code mode s₂ w₃,
      Session.openWith e config w = .ok (.ok s, w₁) → Session.History e s w₁ codes s₁ w₂ →
      Session.execute e s₁ code w₂ = .ok ((mode, s₂), w₃) → ∃ shared isExpression completion,
        Session.runLine e isExpression s₁.live code (shared, w₂.2) =
          .ok ((completion, s₂.live), w₃) := by
  refine ⟨?_, ?_, ?_, ?_, Session.openWith_sim e config, fun s t code hs =>
    Session.execute_sim e hs code, Simulator.run_sim e config, fun he =>
    ⟨he.openWith config, he.line, he.program config⟩, ?_⟩
  · rintro ⟨w, h⟩ r ⟨w', h'⟩ hopen
    exact Session.openWith_logs e config _ w h r w' h' rfl hopen
  · rintro s code ⟨w, h⟩ mode s' ⟨w', h'⟩ hexecute
    obtain ⟨_, hlog, -, r, hcode, rfl, hr⟩ :=
      Session.execute_logs e s code _ w h (mode, s') w' h' rfl hexecute
    exact ⟨r, hcode, hlog, hr⟩
  · rintro ⟨w, h⟩ s ⟨w₁, h₁⟩ codes s' ⟨w', h'⟩ hopen hhistory
    -- The calls of a session are those of its opening, and then those of its lines.
    obtain ⟨opening, hlog, ⟨s, ⟨⟩, hlive, hchecker, -, horder⟩ | ⟨cause, _, -, ⟨⟩, -⟩⟩ :=
      Session.openWith_logs e config _ w h _ w₁ h₁ rfl hopen
    obtain ⟨-, -, rounds, rfl, hlog'⟩ := hhistory.logs
    refine ⟨rounds, rfl, _, rfl, ?_, Session.orderly config w.created rounds⟩
    rw [hlog', hlog, hlive, hchecker, horder.eq_map, List.append_assoc]
  · rintro code ⟨w, h⟩ r ⟨w', h'⟩ hrun
    exact Simulator.run_logs e config code _ w h r w' h' rfl hrun
  · intro bare he w s w₁ codes s₁ w₂ code mode s₂ w₃ hopen hhistory hexecute
    -- The checker has nothing to print by, so nothing but the live run is seen on the host.
    have hbare := hhistory.checker_bare he (Session.openWith_bare he hopen)
    obtain ⟨-, shared, isExpression, completion, hline, -, -⟩ :=
      Session.execute_bare he hbare hexecute
    exact ⟨shared, isExpression, completion, hline⟩

end LedBoard
