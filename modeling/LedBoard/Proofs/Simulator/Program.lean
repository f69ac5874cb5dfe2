import LedBoard.Proofs.Board.Calls
import LedBoard.Proofs.Script.Midway
import LedBoard.Simulator

/-!
# The run of a program

Every program is run by an interpreter of its own, which knows the modules of the board and
nothing else (`program`). What is left of a run is the run of this interpreter, between the event
that says that a program starts and the report of how it ended (`run_apply`). All that reaches
the display meanwhile comes from the calls of the program, in their order.

* `program_only`: the interpreter of a program knows no native functions but those of the board;
* `run_done`, `midway_done`: the commands that a program sends, until it ends and until any of
  its calls.
-/

namespace LedBoard.Simulator

open Script (Interpreter)

/-- The interpreter of a program before the program runs. -/
def program (config : Config) : Interpreter Host :=
  Devices.all.foldl .register
    (.create { enableOsAccess := config.enableOsAccess, print := some Host.print })

/-- The host when a program starts. -/
def started (code : String) (h : Host) : Host := h.emit (.programStarted code.utf8ByteSize)

theorem registerModules_eq (i : Interpreter Host) (ms : List (Module Host)) :
    Script.engine.registerModules i ms = pure (.ok (), ms.foldl .register i) := by
  induction ms generalizing i with
  | nil => rfl
  | cons m rest ih => exact ih (i.register m)

/-- A run fails if no interpreter may be created, and else is the run of the interpreter of the
    program. -/
theorem run_apply (config : Config) (code : String) (w : Script.Supply × Host) :
    run Script.engine config code w =
      if w.1.next.1 then
        ((program config).execute code (started code w.2)).map fun x =>
          (.ok (outcome x.1.1), (w.1.next.2, report x.1.1 x.2))
      else .ok (.error (.live .createFailed), (w.1.next.2, w.2)) := by
  have hcreate : ∀ c : EngineConfig Host, Script.engine.create c w =
      .ok (if w.1.next.1 then .ok (.create c) else .error .createFailed, (w.1.next.2, w.2)) :=
    fun _ => rfl
  have hok : ∀ {α β : Type} (a : α) (f : α → Except Crash β), (Except.ok a >>= f) = f a :=
    fun _ _ => rfl
  rw [run, Run.bind_apply, hcreate]
  cases w.1.next.1 with
  | false => rfl
  | true =>
    rw [if_pos rfl, if_pos rfl, hok]
    dsimp only
    rw [registerModules_eq, pure_bind]
    -- From here on nothing can be refused: the run is left, and what is reported of it.
    change (Script.beside (Interpreter.execute _ code) (_, started code w.2) >>= fun x => _) = _
    rw [beside_apply, program]
    dsimp only
    cases Interpreter.execute _ code (started code w.2) with
    | error crash => rfl
    | ok x => rfl

/-! ## What the interpreter of a program knows -/

/-- To register a module whose functions are of a kind keeps the native functions of this kind. -/
theorem register_only {P : String → Native Host → Prop} {i : Interpreter Host} (h : i.Only P)
    {m : Module Host} (hm : ∀ a ∈ m.functions, P a.1 a.2) : (i.register m).Only P where
  globals := h.globals
  modules n := by
    simp only [Interpreter.register, Bindings.bind]
    split
    · exact .some ⟨rfl, List.forall₂_same.2 fun a ha => ⟨rfl, rfl, hm a ha⟩, rfl⟩
    · exact h.modules n

/-- So it is with modules of which all do what the board does. -/
theorem registerAll_only {i : Interpreter Host} (h : i.Only Devices.Acts)
    {ms : List (Module Host)} (hms : ∀ m ∈ ms, Devices.AllAct m) :
    (ms.foldl .register i).Only Devices.Acts := by
  induction ms generalizing i with
  | nil => exact h
  | cons m rest ih =>
    exact ih (register_only h (hms m List.mem_cons_self)) fun m hm =>
      hms m (List.mem_cons_of_mem _ hm)

/-- The interpreter of a program knows no native functions but those of the board. -/
theorem program_only (config : Config) : (program config).Only Devices.Acts :=
  registerAll_only ⟨fun _ _ => .none, fun _ => .none⟩ Devices.all_acts

/-! ## What a program sends to the display -/

/-- Since `h₀` the commands of the deeds were sent. -/
def Done (h₀ : Host) (deeds : List Deed) (h : Host) : Prop :=
  h₀.Sent (deeds.flatMap (Deed.commands h₀.frameMs)) h

variable {h₀ h h' : Host} {deeds : List Deed}

/-- A call does its own commands behind those of the calls before it. -/
theorem Done.called (hdone : Done h₀ deeds h) {name : String} {f : Native Host}
    (hf : Devices.Acts name f) {args : List Value} {r : Except ScriptError Value}
    (hrun : (f args).run h = .ok (r, h')) : Done h₀ (deeds ++ [.called name args]) h' := by
  have hsent := hdone.trans (hf.sent hrun)
  rw [hdone.frameMs] at hsent
  rwa [Done, List.flatMap_append, List.flatMap_singleton]

theorem Done.printed (hdone : Done h₀ deeds h) (chunk : String) :
    Done h₀ (deeds ++ [.printed chunk]) (h.print chunk) := by
  have hsent := hdone.trans (h.print_sent chunk)
  rwa [Done, List.flatMap_append, List.flatMap_singleton]

/-- A program sends the commands of its calls. -/
theorem execute_done {config : Config} {code : String} {x : Completion × Interpreter Host}
    (hrun : (program config).execute code h = .ok (x, h')) :
    ∃ deeds, (program config).deeds? .statements code h = some deeds ∧ Done h deeds h' := by
  have hinput : (program config).input .statements code h = .ok (x, h') := hrun
  exact (program_only config).exists_deeds (K := Done h)
    (fun hf _ _ _ _ _ hdone hcall => hdone.called hf hcall)
    (fun chunk _ _ hdone => hdone.printed chunk) (.refl h) hinput

/-- So it has done right after any of its calls. -/
theorem midway_done {config : Config} {code : String} {n : Nat}
    (hmidway : (program config).midway? .statements code n h = some (deeds, h')) :
    Done h deeds h' :=
  (program_only config).midway (K := Done h)
    (fun hf _ _ _ _ _ hdone hcall => hdone.called hf hcall)
    (fun chunk _ _ hdone => hdone.printed chunk) (.refl h) hmidway

theorem started_sent (code : String) (h : Host) : h.Sent [] (started code h) :=
  h.emit_sent (.programStarted code.utf8ByteSize)

theorem report_sent (completion : Completion) (h : Host) : h.Sent [] (report completion h) := by
  cases completion with
  | error message => exact (h.emit_sent (.programFailed message)).trans (Host.print_sent _ message)
  | _ => exact .refl h

/-- A run that gets no interpreter does nothing. What another one sends to the display are the
    commands of the calls of the program. -/
theorem run_done {config : Config} {code : String} {w w' : Script.Supply × Host}
    {result : Except OpenError Outcome}
    (hrun : run Script.engine config code w = .ok (result, w')) :
    (∃ cause, result = .error cause ∧ w'.2 = w.2) ∨
    ∃ outcome deeds, result = .ok outcome ∧
      (program config).deeds? .statements code (started code w.2) = some deeds ∧
      Done w.2 deeds w'.2 := by
  rw [run_apply] at hrun
  split at hrun
  · cases hexecute : (program config).execute code (started code w.2) with
    | error crash =>
      rw [hexecute] at hrun
      cases hrun
    | ok x =>
      rw [hexecute] at hrun
      cases hrun
      obtain ⟨deeds, hdeeds, hdone⟩ := execute_done hexecute
      refine .inr ⟨_, deeds, rfl, hdeeds, ?_⟩
      have hsent := ((started_sent code w.2).trans hdone).trans (report_sent x.1.1 x.2)
      rwa [List.append_nil] at hsent
  · cases hrun
    exact .inl ⟨_, rfl, rfl⟩

end LedBoard.Simulator
