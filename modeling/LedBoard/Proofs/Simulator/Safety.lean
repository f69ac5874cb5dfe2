import LedBoard.Proofs.Display.Checked
import LedBoard.Proofs.Script.Failure
import LedBoard.Proofs.Session.Calls
import LedBoard.Proofs.Session.History
import LedBoard.Proofs.Simulator.Program

/-!
# Nothing crashes but by overflow

Programs and console sessions know native functions that never crash: those of the board check
their arguments before they look at them, and what they draw stays within all tables and bounds,
as drawing with checks shows. So a crash can only come from the script itself, where it negates
the least integer or divides it by minus one. Every other failure is reported.

* `Simulator.program_sturdy`, `Session.History.sturdy`: no native function crashes that programs
  know, nor one that sessions know, whatever was run in them before;
* `crashes_by_overflow_only`: the statements together.
-/

namespace LedBoard

open Script (Interpreter)

theorem Script.Interpreter.Only.mono {σ : Type} {P Q : String → Native σ → Prop}
    {i : Interpreter σ} (h : i.Only P) (hPQ : ∀ name f, P name f → Q name f) : i.Only Q := by
  have hbound : Interpreter.Bound (fun name f g => f = g ∧ Q name f) (fun _ => True)
      (i.rewire (fun _ f => f) i.print) (i.rewire (fun _ f => f) i.print) :=
    h.rewire (by rintro name f _ ⟨rfl, hf⟩; exact ⟨rfl, hPQ name f hf⟩) _ _
  rwa [Interpreter.rewire_self] at hbound

/-- No function of the board crashes: it returns or refuses. -/
theorem Devices.Acts.crashFree {name : String} {f : Native Host} (hf : Acts name f)
    (args : List Value) : Run.CrashFree (f args).run := by
  intro h
  obtain ⟨answer, sensors, hrun⟩ := hf args h.setting
  exact ⟨_, hrun h rfl⟩

theorem Session.console_crashFree {name : String} {f : Native Host}
    (hf : (name, f) ∈ Devices.consoleFunctions) (args : List Value) :
    Run.CrashFree (f args).run := by
  intro h
  rcases eq_of_mem_consoleFunctions hf with rfl | rfl
  · exact ⟨_, clearConsole_run args h⟩
  · exact ⟨_, tellVersion_run args h⟩

theorem Run.map_eq_error_iff {α β : Type} {f : α → β} {x : Except Crash α} {crash : Crash} :
    x.map f = .error crash ↔ x = .error crash := by
  cases x with
  | error crash' => exact ⟨fun h => by cases h; rfl, fun h => by cases h; rfl⟩
  | ok a => exact ⟨nofun, nofun⟩

/-! ## Programs -/

/-- No native function that a program can call crashes. -/
theorem Simulator.program_sturdy (config : Config) : (program config).Sturdy :=
  (program_only config).mono fun _ _ hf => hf.crashFree

/-! ## Sessions -/

namespace Session

variable {s s' : Session (Interpreter Host)} {w w' : Script.Supply × Host}

/-- The live instance knows no native functions but those of the console. -/
def Consoled (s : Session (Interpreter Host)) : Prop :=
  s.live.Only fun name f => (name, f) ∈ Devices.consoleFunctions

/-- A line of input brings in no native functions. -/
theorem Consoled.execute (hs : s.Consoled) {code : String} {mode : InputMode}
    (h : Session.execute Script.engine s code w = .ok ((mode, s'), w')) : s'.Consoled := by
  rw [execute_apply] at h
  cases hinput : s.live.input (modeOf code) code w.2 with
  | error crash =>
    rw [hinput] at h
    cases h
  | ok x =>
    rw [hinput] at h
    cases h
    have hafter := Interpreter.Only.input hs hinput
    exact ⟨hafter.globals, hafter.modules⟩

/-- Nor do any lines after each other. -/
theorem Consoled.history (hs : s.Consoled) {codes : List String}
    (h : History Script.engine s w codes s' w') : s'.Consoled := by
  induction h with
  | nil => exact hs
  | onHost _ _ ih => exact ih
  | execute _ hexecute ih => exact ih.execute hexecute

/-- So no native function crashes that a session knows after any history. -/
theorem History.sturdy {config : Config} {w₀ : Script.Supply × Host} {codes : List String}
    (hopen : openWith Script.engine config w₀ = .ok (.ok s, w))
    (h : History Script.engine s w codes s' w') : s'.live.Sturdy := by
  have hopened : s.Consoled := by
    rw [Consoled, (openWith_live hopen).1]
    exact (openedLive_linked config config).toBound
  exact (hopened.history h).mono fun _ _ hf => console_crashFree hf

/-- Opening a session never crashes. -/
theorem openWith_crashFree (config : Config) : Run.CrashFree (openWith Script.engine config) := by
  have hcreate : ∀ c : EngineConfig Host, Run.CrashFree (Script.engine.create c) :=
    fun c w => ⟨_, create_apply c w⟩
  refine .bind (hcreate _) fun result => ?_
  cases result with
  | error cause => exact .pure _
  | ok live =>
    refine .bind (setGlobalFunctions_eq live _ ▸ .pure _) fun bound => ?_
    obtain ⟨result, live⟩ := bound
    cases result with
    | error cause => exact .bind (.pure ()) fun _ => .pure _
    | ok _ =>
      refine .bind (hcreate _) fun result => ?_
      cases result with
      | error cause => exact .bind (.pure ()) fun _ => .pure _
      | ok checker => exact .bind (fun w => ⟨_, rfl⟩) fun _ => .pure _

/-- A line of input crashes exactly if its run does, and otherwise reports how this ended. -/
theorem execute_eq_error_iff (s : Session (Interpreter Host)) (code : String)
    (w : Script.Supply × Host) (crash : Crash) :
    execute Script.engine s code w = .error crash ↔
      s.live.input (modeOf code) code w.2 = .error crash := by
  rw [execute_apply, Run.map_eq_error_iff]

end Session

/-- The run of a program that gets an interpreter crashes exactly if the program does. -/
theorem Simulator.run_eq_error_iff {config : Config} {code : String} {w : Script.Supply × Host}
    (hw : w.1.next.1 = true) (crash : Crash) :
    run Script.engine config code w = .error crash ↔
      (program config).input .statements code (started code w.2) = .error crash := by
  rw [run_apply, if_pos hw, Run.map_eq_error_iff, Interpreter.input]

/-- What holds of every program on every board, and of every line of input after any history of a
    session, whatever is done to the host between the lines. Nothing crashes, unless the script
    comes to a negation of the least integer or to its quotient by minus one. Every other failure
    ends the run where it comes up and is reported in its completion, which becomes the outcome
    of the program or the answer to the line; and a run that ends in another way has a value or
    none. Opening a session never crashes. That no place beyond a table or a list is looked at
    while drawing, and no number of it overflows, is shown by the module of the display with all
    checks, which is the module of the display. -/
theorem crashes_by_overflow_only :
    Checked.display = Devices.display ∧
    (∀ (config : Config) (code : String) (w : Script.Supply × Host),
      (Simulator.program config).Accounted .statements code (Simulator.started code w.2) ∧
      (w.1.next.1 = false → Simulator.run Script.engine config code w =
        .ok (.error (.live .createFailed), (w.1.next.2, w.2))) ∧
      (w.1.next.1 = true →
        (∀ crash, Simulator.run Script.engine config code w = .error crash ↔
          crash = .overflow ∧ ∃ j e h, (Simulator.program config).Visits code
            (Simulator.started code w.2) .statements j e h ∧ j.Overflows e h) ∧
        ∀ completion i h, (Simulator.program config).input .statements code
            (Simulator.started code w.2) = .ok ((completion, i), h) →
          Simulator.run Script.engine config code w =
            .ok (.ok (Simulator.outcome completion),
              (w.1.next.2, Simulator.report completion h)))) ∧
    (∀ config, Run.CrashFree (Session.openWith Script.engine config)) ∧
    ∀ (config : Config) (w₀ w₁ w : Script.Supply × Host) (s₀ s : Session (Interpreter Host))
      (codes : List String), Session.openWith Script.engine config w₀ = .ok (.ok s₀, w₁) →
      Session.History Script.engine s₀ w₁ codes s w → ∀ code,
        s.live.Accounted (Session.modeOf code) code w.2 ∧
        (∀ crash, Session.execute Script.engine s code w = .error crash ↔
          crash = .overflow ∧ ∃ j e h, s.live.Visits code w.2 (Session.modeOf code) j e h ∧
            j.Overflows e h) ∧
        ∀ completion live h,
          s.live.input (Session.modeOf code) code w.2 = .ok ((completion, live), h) →
          Session.execute Script.engine s code w =
            .ok ((Session.modeOf code,
              ⟨live.clearPending, s.checker.clearPending, completion == .exit⟩),
              (w.1, Session.report completion (h.emit (.inputRun (Session.modeOf code))))) := by
  -- A program and a line of input are alike here: neither knows a native function that crashes.
  refine ⟨Checked.display_eq,
    fun config code w => ⟨?_, fun hw => ?_, fun hw => ⟨fun crash => ?_, ?_⟩⟩,
    Session.openWith_crashFree, fun config w₀ w₁ w s₀ s codes hopen hhistory code =>
    ⟨?_, fun crash => ?_, ?_⟩⟩
  · exact (Simulator.program_sturdy config).accounted .statements code _
  · rw [Simulator.run_apply, hw]
    rfl
  · rw [Simulator.run_eq_error_iff hw]
    exact Interpreter.input_eq_error_iff (Simulator.program_sturdy config) _ _ _ crash
  · intro completion i h hinput
    have hexecute : (Simulator.program config).execute code (Simulator.started code w.2) =
        .ok ((completion, i), h) := hinput
    rw [Simulator.run_apply, if_pos hw, hexecute]
    rfl
  · exact (hhistory.sturdy hopen).accounted _ code _
  · rw [Session.execute_eq_error_iff]
    exact Interpreter.input_eq_error_iff (hhistory.sturdy hopen) _ _ _ crash
  · intro completion live h hinput
    rw [Session.execute_apply, hinput]
    rfl

end LedBoard
