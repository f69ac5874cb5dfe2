import LedBoard.Proofs.Host.Output
import LedBoard.Proofs.Script.Frame
import LedBoard.Session

/-!
# One line of a session

A line of input is run by the live instance, in the mode that the checker finds, and then its end
is reported. Both print to the output of the host: the script while it runs, the session when it
has ended. The native functions of a session print nothing, so the output grows by the chunks in
the journal of the run, and then by the echo.

* `execute_apply`: what is left of a session when the checker and the live instance are script
  interpreters;
* `Sound.execute`: the output, the flag and the exception left behind after one line;
* `Linked.execute`: sessions whose live instances are linked answer the same line alike, whatever
  their hosts.
-/

namespace LedBoard.Session

open Script (Interpreter)

/-- The mode in which a source is run. -/
def modeOf (code : String) : InputMode :=
  if (Script.expressionOf? code).isSome then .expression else .statements

/-- What the end of a run adds to the output. -/
def echo : Completion → String
  | .value repr => repr ++ "\n"
  | .valueError text => text
  | .error text => text
  | .exit => ""
  | .noValue => ""

/-- The text of the chunks among the deeds of a run. -/
def printed (deeds : List Deed) : String := String.join (deeds.filterMap Deed.chunk?)

/-- A line of input is one run of the live instance, in the mode that its source calls for. Its end
    is reported, and what is left behind is cleared. -/
theorem execute_apply (s : Session (Interpreter Host)) (code : String)
    (w : Script.Supply × Host) :
    execute Script.engine s code w = (s.live.input (modeOf code) code w.2).map fun x =>
      ((modeOf code, ⟨x.1.2.clearPending, s.checker.clearPending, x.1.1 == .exit⟩),
        (w.1, report x.1.1 (x.2.emit (.inputRun (modeOf code))))) := by
  rw [execute]
  cases hmode : (Script.expressionOf? code).isSome with
  | true =>
    have hexpression : modeOf code = .expression := if_pos hmode
    rw [hexpression]
    simp only [Script.engine, hmode]
    change (Script.beside (s.live.evaluate code) w >>= fun x => _) = _
    rw [beside_apply, Interpreter.input]
    cases s.live.evaluate code w.2 with
    | error crash => rfl
    | ok x => rfl
  | false =>
    have hstatements : modeOf code = .statements := if_neg (by simp [hmode])
    rw [hstatements]
    simp only [Script.engine, hmode]
    change (Script.beside (s.live.execute code) w >>= fun x => _) = _
    rw [beside_apply, Interpreter.input]
    cases s.live.execute code w.2 with
    | error crash => rfl
    | ok x => rfl

/-! ## What the output grows by -/

theorem printed_printed (deeds : List Deed) (chunk : String) :
    printed (deeds ++ [.printed chunk]) = printed deeds ++ chunk := by
  rw [printed, List.filterMap_append, String.join_append, ← printed]
  exact congrArg _ (by simp [Deed.chunk?])

theorem printed_called (deeds : List Deed) (name : String) (args : List Value) :
    printed (deeds ++ [.called name args]) = printed deeds := by
  rw [printed, List.filterMap_append, List.filterMap_cons_none rfl, List.filterMap_nil,
    List.append_nil, ← printed]

/-- The function that clears the console takes no arguments and returns nothing. -/
theorem clearConsole_run (args : List Value) (h : Host) :
    (Devices.clearConsole args).run h =
      .ok (if args.length = 0 then (.ok .none, h.clearConsole)
        else (.error (.argumentCount 0 args.length), h)) := by
  rw [Devices.clearConsole, checkArity]
  split
  · rfl
  · rfl

/-- The function that tells the version takes no arguments and leaves the host as it is. -/
theorem tellVersion_run (args : List Value) (h : Host) :
    (Devices.tellVersion args).run h =
      .ok (if args.length = 0 then .ok (.str Devices.version)
        else .error (.argumentCount 0 args.length), h) := by
  rw [Devices.tellVersion, checkArity]
  split
  · rfl
  · rfl

theorem clearConsole_grown (h : Host) : h.Grown "" h.clearConsole := by
  rw [Host.clearConsole]
  split
  · exact h.emit_grown rfl
  · exact .refl h

theorem eq_of_mem_consoleFunctions {name : String} {f : Native Host}
    (hf : (name, f) ∈ Devices.consoleFunctions) :
    f = Devices.clearConsole ∨ f = Devices.tellVersion := by
  rcases List.mem_cons.1 hf with hf | hf
  · exact .inl (Prod.mk.inj hf).2
  · exact .inr (Prod.mk.inj (List.mem_singleton.1 hf)).2

/-- The functions of the console print nothing. -/
theorem console_grown {name : String} {f : Native Host}
    (hf : (name, f) ∈ Devices.consoleFunctions) {args : List Value} {h h' : Host}
    {r : Except ScriptError Value} (hrun : (f args).run h = .ok (r, h')) : h.Grown "" h' := by
  rcases eq_of_mem_consoleFunctions hf with rfl | rfl
  · rw [clearConsole_run] at hrun
    split at hrun
    · cases hrun
      exact clearConsole_grown h
    · cases hrun
      exact .refl h
  · rw [tellVersion_run] at hrun
    cases hrun
    exact .refl h

/-- The functions of the console return the same on every host. -/
theorem console_sim {name : String} {f : Native Host}
    (hf : (name, f) ∈ Devices.consoleFunctions) : Native.Sim (fun _ _ => True) f f := by
  intro args h k _
  rcases eq_of_mem_consoleFunctions hf with rfl | rfl
  · rw [clearConsole_run, clearConsole_run]
    split
    · exact .returned ⟨.returned rfl, trivial⟩
    · exact .returned ⟨.failed _, trivial⟩
  · rw [tellVersion_run, tellVersion_run]
    exact .returned ⟨.refl _, trivial⟩

/-- The end of a run makes the output grow by its echo. -/
theorem report_grown {h : Host} (hq : h.Quiet) (completion : Completion) :
    h.Grown (echo completion) (report completion h) := by
  cases completion with
  | exit | noValue => exact .refl h
  | value repr => exact Host.print_grown hq _
  | valueError text => exact Host.print_grown hq _
  | error text =>
    have hlog := h.emit_grown (e := .inputFailed text) rfl
    exact String.empty_append (s := text) ▸ hlog.trans (Host.print_grown (hlog.quiet hq) text)

/-! ## One line -/

/-- Live instances that know the same, and of native functions only those of the console: they
    answer alike whatever their hosts. -/
def Linked (i j : Interpreter Host) : Prop :=
  Interpreter.Sim (fun _ _ => True) (fun name f g => f = g ∧ (name, f) ∈ Devices.consoleFunctions)
    (fun _ => True) i j

/-- What every line keeps of a session on a host: its live instance prints to the output, and
    knows no native functions but those of the console, and the listener is in place. -/
structure Sound (listener : Option Output.Listener) (s : Session (Interpreter Host)) (h : Host) :
    Prop where
  linked : Linked s.live s.live
  print : s.live.print = some Host.print
  listener : h.output.listener = listener

variable {listener : Option Output.Listener} {s t : Session (Interpreter Host)}

/-- While a line runs, the output grows by the chunks that are printed. -/
theorem Sound.input {h h' : Host} (hs : Sound listener s h) (hq : h.Quiet) {mode : InputMode}
    {code : String} {x : Completion × Interpreter Host}
    (hrun : s.live.input mode code h = .ok (x, h')) :
    ∃ deeds, s.live.deeds? mode code h = some deeds ∧ h.Grown (printed deeds) h' := by
  have honly : s.live.Only fun name f => (name, f) ∈ Devices.consoleFunctions :=
    hs.linked.toBound
  -- The journal and the host are kept in step: the output has grown by the chunks in the journal.
  refine honly.exists_deeds (K := fun deeds k => h.Grown (printed deeds) k) ?_ ?_ (.refl h) hrun
  · intro name f hf args deeds k r k' hk hcall
    have hgrown := hk.trans (console_grown hf hcall)
    rwa [printed_called, ← String.append_empty (s := printed deeds)]
  · intro chunk deeds k hk
    rw [printed_printed, hs.print]
    exact hk.trans (Host.print_grown (hk.quiet hq) chunk)

theorem Sound.quiet {h : Host} (hs : Sound listener s h)
    (hlistener : ∀ l ∈ listener, l.acts = []) : h.Quiet := by
  rw [Host.Quiet, hs.listener]
  exact hlistener

/-- When its end is reported, the output has grown by the echo besides. -/
theorem Sound.report {h h' : Host} (hs : Sound listener s h) (hq : h.Quiet) {mode : InputMode}
    {code : String} {completion : Completion} {live : Interpreter Host}
    (hrun : s.live.input mode code h = .ok ((completion, live), h')) :
    ∃ deeds, s.live.deeds? mode code h = some deeds ∧
      h.Grown (printed deeds ++ echo completion)
        (report completion (h'.emit (.inputRun mode))) := by
  obtain ⟨deeds, hdeeds, hgrown⟩ := hs.input hq hrun
  have hlogged := hgrown.emit (e := .inputRun mode) rfl
  exact ⟨deeds, hdeeds, hlogged.trans (report_grown (hlogged.quiet hq) completion)⟩

/-- A line makes the output grow by the chunks printed and then the echo; it sets the flag if
    it asks to end the session, and leaves no exception behind. -/
theorem Sound.execute {w : Script.Supply × Host} (hs : Sound listener s w.2)
    (hlistener : ∀ l ∈ listener, l.acts = []) (code : String) :
    (∃ crash, s.live.input (modeOf code) code w.2 = .error crash ∧
      execute Script.engine s code w = .error crash) ∨
    ∃ completion live host deeds s' h',
      s.live.input (modeOf code) code w.2 = .ok ((completion, live), host) ∧
      s.live.deeds? (modeOf code) code w.2 = some deeds ∧
      execute Script.engine s code w = .ok ((modeOf code, s'), (w.1, h')) ∧
      w.2.Grown (printed deeds ++ echo completion) h' ∧
      s'.shouldExit = (completion == .exit) ∧ s'.live = live.clearPending ∧
      Sound listener s' h' := by
  rw [execute_apply]
  -- A line is one run of the live instance; what it printed and the echo make up the growth.
  cases hrun : s.live.input (modeOf code) code w.2 with
  | error crash => exact .inl ⟨crash, rfl, rfl⟩
  | ok x =>
    obtain ⟨⟨completion, live⟩, host⟩ := x
    obtain ⟨deeds, hdeeds, hreport⟩ := hs.report (hs.quiet hlistener) hrun
    refine .inr ⟨completion, live, host, deeds, _, _, rfl, hdeeds, rfl, hreport, rfl, rfl, ?_⟩
    refine ⟨?_, ?_, ?_⟩
    · have hlinked := hs.linked.input (modeOf code) code w.2 w.2 trivial
      rw [hrun] at hlinked
      cases hlinked with
      | returned hafter => exact hafter.1.2.withPending none
    · exact ((Interpreter.input_frame s.live (modeOf code) code _ _ _ hrun).print).trans hs.print
    · rw [hreport.output]
      exact hs.listener

/-- Linked sessions answer a line alike, and append the same to their outputs whatever these
    hold, or both crash. -/
theorem Linked.execute {listener' : Option Output.Listener} {w v : Script.Supply × Host}
    (h : Linked s.live t.live) (hs : Sound listener s w.2) (ht : Sound listener' t v.2)
    (hlistener : ∀ l ∈ listener, l.acts = []) (hlistener' : ∀ l ∈ listener', l.acts = [])
    (code : String) :
    Ended (fun x y => x.1.1 = y.1.1 ∧ w.2.since x.2.2 = v.2.since y.2.2 ∧
      x.1.2.shouldExit = y.1.2.shouldExit ∧ Linked x.1.2.live y.1.2.live)
      (execute Script.engine s code w) (execute Script.engine t code v) := by
  -- Both print the same, and nothing else makes their outputs grow but the echo, which is the same.
  have hdeeds := Interpreter.Sim.deeds? h (modeOf code) code (s := w.2) (t := v.2) trivial
  have hinput := Interpreter.Sim.input h (modeOf code) code w.2 v.2 trivial
  rw [execute_apply, execute_apply]
  generalize hrun : s.live.input (modeOf code) code w.2 = x,
    hrun' : t.live.input (modeOf code) code v.2 = y at hinput
  cases hinput with
  | failed crash => exact .failed crash
  | @returned x y hxy =>
    obtain ⟨⟨completion, live⟩, host⟩ := x
    obtain ⟨⟨completion', live'⟩, host'⟩ := y
    obtain ⟨⟨rfl, hlive⟩, -⟩ : (completion = completion' ∧ _) ∧ True := hxy
    obtain ⟨deeds, hdeeds₁, hreport⟩ := hs.report (hs.quiet hlistener) hrun
    obtain ⟨deeds', hdeeds₂, hreport'⟩ := ht.report (ht.quiet hlistener') hrun'
    obtain rfl : deeds = deeds' := by rwa [hdeeds₁, hdeeds₂, Option.some.injEq] at hdeeds
    exact .returned ⟨rfl, hreport.since_eq.trans hreport'.since_eq.symm, rfl,
      hlive.withPending none⟩

end LedBoard.Session
