import LedBoard.Proofs.Simulator.History

/-!
# Programs start afresh

A board outlives its programs, but nothing of one program reaches the next through it: how a
program goes depends on the setting of the host alone, that is, on the settings of the board and
its sensors with the presses they have seen. The names bound before, the exception left behind, the
display, the time waited and the output are all of no account; what a listener of the output does
with what it hears is of no account either.

Two hosts are compared by what has happened on them since two starting points, but for what was
heard (`Alike`). The native functions of the board and the prints keep this, so the interpreter of
a program on one host simulates it on the other.

* `program_sim`: the simulation;
* `run_output`: a run appends the chunks it prints to the output, whatever the listener;
* `programs_start_afresh`: the statements together.
-/

namespace LedBoard

/-- The buffer to which chunks are appended, one after the other. -/
def Output.Buffer.appendAll (b : Output.Buffer) (chunks : List String) : Output.Buffer :=
  chunks.foldl (fun b chunk => (b.append chunk).1) b

namespace Simulator

open Script (Interpreter)

/-- Hosts with the same setting on which the same has happened since they were `h₀` and `k₀`, but
    for what listeners of the output have heard. -/
structure Alike (h₀ k₀ h k : Host) : Prop where
  setting : h.setting = k.setting
  events : ∃ a b, h.events = h₀.events ++ a ∧ k.events = k₀.events ++ b ∧
    Event.silent a = Event.silent b

namespace Alike

variable {h₀ k₀ h k : Host}

theorem of_setting (hs : h.setting = k.setting) : Alike h k h k :=
  ⟨hs, [], [], (List.append_nil _).symm, (List.append_nil _).symm, rfl⟩

/-- Further events that are the same but for what is heard. -/
theorem emitAll (halike : Alike h₀ k₀ h k) {a b : List Event}
    (hab : Event.silent a = Event.silent b) : Alike h₀ k₀ (h.emitAll a) (k.emitAll b) := by
  obtain ⟨hs, a₀, b₀, ha₀, hb₀, hab₀⟩ := halike
  refine ⟨?_, a₀ ++ a, b₀ ++ b, ?_, ?_, ?_⟩
  · rw [h.emitAll_setting, k.emitAll_setting, hs]
  · rw [Host.emitAll_events, ha₀, List.append_assoc]
  · rw [Host.emitAll_events, hb₀, List.append_assoc]
  · rw [Event.silent_append, Event.silent_append, hab₀, hab]

/-- A chunk that is printed leaves them alike, since what it makes happen is heard only. -/
theorem print (halike : Alike h₀ k₀ h k) (chunk : String) :
    Alike h₀ k₀ (h.print chunk) (k.print chunk) := by
  -- The outputs may differ, and so may what their listeners do; but all of it is only heard.
  obtain ⟨output, a, ha, hprint⟩ := h.print_eq chunk
  obtain ⟨output', b, hb, hprint'⟩ := k.print_eq chunk
  rw [hprint, hprint']
  have hwith : Alike h₀ k₀ { h with output } { k with output := output' } :=
    ⟨halike.setting, halike.events⟩
  exact hwith.emitAll (ha.trans hb.symm)

theorem started (hs : h.setting = k.setting) (code : String) :
    Alike h k (started code h) (started code k) :=
  (of_setting hs).emitAll (a := [.programStarted code.utf8ByteSize])
    (b := [.programStarted code.utf8ByteSize]) rfl

/-- The report of an end leaves them alike. -/
theorem report (halike : Alike h₀ k₀ h k) (completion : Completion) :
    Alike h₀ k₀ (report completion h) (report completion k) := by
  cases completion with
  | error message =>
    exact (halike.emitAll (a := [.programFailed message]) (b := [.programFailed message]) rfl).print
      message
  | _ => exact halike

/-- A native function of the board does the same to such hosts. -/
theorem native {name : String} {f : Native Host} (hf : Devices.Acts name f) :
    Native.Sim (Alike h₀ k₀) f f := by
  intro args h k halike
  -- The answer and the sensors afterwards are those for the setting that both hosts have.
  obtain ⟨answer, sensors, hrun⟩ := hf args h.setting
  rw [hrun h rfl, hrun k halike.setting.symm]
  have hcalled := halike.emitAll (a := (Deed.called name args).events h.setting.frameMs) rfl
  exact .returned ⟨.refl answer,
    congrArg (fun s : Host.Setting => { s with sensors }) hcalled.setting, hcalled.events⟩

end Alike

/-- So the interpreter of a program does the same on such hosts. -/
theorem program_sim (config : Config) (h₀ k₀ : Host) :
    (program config).Sim (Alike h₀ k₀) (fun name f g => f = g ∧ Devices.Acts name f)
      (fun _ => True) (program config) where
  toBound := program_only config
  natives := by
    rintro name f _ ⟨rfl, hf⟩
    exact Alike.native hf
  write chunk h k halike := by
    rw [Interpreter.write_apply, Interpreter.write_apply]
    exact .returned ⟨.returned rfl, halike.print chunk⟩
  pending := rfl
  runs := rfl

/-! ## What a program prints -/

/-- What is printed when a program has ended. -/
def complaint : Completion → List String
  | .error message => [message]
  | _ => []

/-- The chunks that a program prints on a host, and the text of the error with which it ends, if
    it does not crash. -/
def chunks? (config : Config) (code : String) (h : Host) : Option (List String) :=
  match (program config).execute code (started code h) with
  | .ok ((completion, _), _) =>
    ((program config).deeds? .statements code (started code h)).map fun deeds =>
      deeds.filterMap Deed.chunk? ++ complaint completion
  | .error _ => none

variable {config : Config} {code : String} {h k : Host}

theorem print_output (h : Host) (chunk : String) :
    (h.print chunk).output = (h.output.append chunk).1 :=
  Host.emitAll_output ..

/-- While a program runs, the chunks that it prints are appended to the output. -/
theorem execute_output {h' : Host} {x : Completion × Interpreter Host}
    (hrun : (program config).execute code h = .ok (x, h')) :
    ∃ deeds, (program config).deeds? .statements code h = some deeds ∧
      h'.output = h.output.appendAll (deeds.filterMap Deed.chunk?) := by
  have hinput : (program config).input .statements code h = .ok (x, h') := hrun
  refine (program_only config).exists_deeds
    (K := fun deeds k => k.output = h.output.appendAll (deeds.filterMap Deed.chunk?)) ?_ ?_ rfl hinput
  · intro name f hf args deeds k r k' hk hcall
    obtain ⟨answer, sensors, hacts⟩ := hf args k.setting
    cases (hacts k rfl).symm.trans hcall
    rw [List.filterMap_append, List.filterMap_cons_none rfl, List.filterMap_nil, List.append_nil]
    exact (Host.emitAll_output ..).trans hk
  · intro chunk deeds k hk
    rw [List.filterMap_append, Output.Buffer.appendAll, List.foldl_append]
    exact (print_output k chunk).trans (congrArg (fun b => (b.append chunk).1) hk)

theorem report_output (completion : Completion) (h : Host) :
    (report completion h).output = h.output.appendAll (complaint completion) := by
  cases completion with
  | error message => exact print_output _ message
  | _ => rfl

theorem run_of_error {s : Script.Supply} (hs : s.next.1 = true) {crash : Crash}
    (hexecute : (program config).execute code (started code h) = .error crash) :
    run Script.engine config code (s, h) = .error crash := by
  rw [run_apply, if_pos hs, hexecute]
  rfl

/-- A run appends the chunks that it prints to the output, whatever the listener. -/
theorem run_of_ok {s : Script.Supply} (hs : s.next.1 = true) {completion : Completion}
    {i : Interpreter Host} {h' : Host}
    (hexecute : (program config).execute code (started code h) = .ok ((completion, i), h')) :
    run Script.engine config code (s, h) =
        .ok (.ok (outcome completion), (s.next.2, report completion h')) ∧
      ∃ chunks, chunks? config code h = some chunks ∧
        (report completion h').output = h.output.appendAll chunks := by
  obtain ⟨deeds, hdeeds, houtput⟩ := execute_output hexecute
  refine ⟨by rw [run_apply, if_pos hs, hexecute]; rfl, _, by rw [chunks?, hexecute, hdeeds]; rfl, ?_⟩
  rw [report_output, houtput, Output.Buffer.appendAll, Output.Buffer.appendAll,
    Output.Buffer.appendAll, List.foldl_append]
  rfl

/-! ## Two runs -/

/-- What is sent and how long is waited is the same on hosts that are alike. -/
theorem Alike.exists_events {h₀ k₀ : Host} (halike : Alike h₀ k₀ h k) :
    ∃ a b, h.events = h₀.events ++ a ∧ k.events = k₀.events ++ b ∧
      Event.silent a = Event.silent b ∧ Event.commands a = Event.commands b ∧
      Event.pauses a = Event.pauses b := by
  obtain ⟨a, b, ha, hb, hab⟩ := halike.events
  refine ⟨a, b, ha, hb, hab, ?_, ?_⟩
  · rw [← Event.commands_silent a, hab, Event.commands_silent]
  · rw [← Event.pauses_silent a, hab, Event.pauses_silent]

theorem Moment.setting_eq {first first' : Host} (hh : Moment config first h)
    (hk : Moment config first' k) (hsensors : h.sensors = k.sensors) : h.setting = k.setting := by
  rw [Host.setting, hh.microphone, hh.frameMs, hsensors, Host.setting, hk.microphone, hk.frameMs]

/-- The runs of a program on hosts with the same setting crash alike, or end alike, on hosts that
    are alike. -/
theorem execute_alike (config : Config) (code : String) (hsetting : h.setting = k.setting) :
    Ended (fun x y => x.1.1 = y.1.1 ∧ Alike h k x.2 y.2)
      ((program config).execute code (started code h))
      ((program config).execute code (started code k)) := by
  have hsim := (program_sim config h k).execute code (fun _ _ _ _ _ _ => trivial)
  exact (hsim _ _ (.started hsetting code)).mono fun _ _ hend => ⟨hend.1.1, hend.2⟩

/-- A program prints the same on hosts with the same setting. -/
theorem chunks?_eq (hsetting : h.setting = k.setting) :
    chunks? config code h = chunks? config code k := by
  have hdeeds := (program_sim config h k).deeds? .statements code (.started hsetting code)
  have hexecute := execute_alike config code hsetting
  rw [chunks?, chunks?, hdeeds]
  generalize (program config).execute code (started code h) = x,
    (program config).execute code (started code k) = y at hexecute
  cases hexecute with
  | failed crash => rfl
  | returned hend =>
    dsimp only
    rw [hend.1]

/-- Two boards with the same settings, at any moments of their histories at which the sensors and
    the presses they have seen are the same, and no matter what programs they have run, what is on
    their displays and what is in their outputs. If an interpreter may be created on both, a
    program crashes on both alike, or ends on both with the same outcome. Then it has printed the
    same chunks on both, which were appended to the outputs; it has sent the same commands and
    made the same pauses, and apart from what was heard the same has happened in the same order;
    and it leaves the same sensors behind. It has done the same on both up to each of its calls,
    even if it crashes later. -/
theorem programs_start_afresh {first first' : Host} (hh : Moment config first h)
    (hk : Moment config first' k) (hsensors : h.sensors = k.sensors) {s t : Script.Supply}
    (hs : s.next.1 = true) (ht : t.next.1 = true) (code : String) :
    ((∃ crash, run Script.engine config code (s, h) = .error crash ∧
        run Script.engine config code (t, k) = .error crash) ∨
      ∃ outcome chunks w v a b,
        run Script.engine config code (s, h) = .ok (.ok outcome, w) ∧
        run Script.engine config code (t, k) = .ok (.ok outcome, v) ∧
        chunks? config code h = some chunks ∧ chunks? config code k = some chunks ∧
        w.2.output = h.output.appendAll chunks ∧ v.2.output = k.output.appendAll chunks ∧
        w.2.events = h.events ++ a ∧ v.2.events = k.events ++ b ∧
        Event.silent a = Event.silent b ∧ Event.commands a = Event.commands b ∧
        Event.pauses a = Event.pauses b ∧ w.2.sensors = v.2.sensors) ∧
    ∀ n, Option.Rel (fun x y => x.1 = y.1 ∧ Alike h k x.2 y.2)
      ((program config).midway? .statements code n (started code h))
      ((program config).midway? .statements code n (started code k)) := by
  have hsetting := hh.setting_eq hk hsensors
  refine ⟨?_, fun n =>
    (program_sim config h k).midway .statements code n (.started hsetting code)⟩
  -- The setting is all that a program depends on; the hosts stay alike to its end.
  have hexecute := execute_alike config code hsetting
  generalize hrun : (program config).execute code (started code h) = x,
    hrun' : (program config).execute code (started code k) = y at hexecute
  cases hexecute with
  | failed crash => exact .inl ⟨crash, run_of_error hs hrun, run_of_error ht hrun'⟩
  | @returned x y hend =>
    obtain ⟨⟨completion, i⟩, h'⟩ := x
    obtain ⟨⟨completion', j⟩, k'⟩ := y
    obtain ⟨rfl, halike⟩ : completion = completion' ∧ Alike h k h' k' := hend
    obtain ⟨hrun, chunks, hchunks, houtput⟩ := run_of_ok hs hrun
    obtain ⟨hrun', chunks', hchunks', houtput'⟩ := run_of_ok ht hrun'
    obtain rfl : chunks = chunks' :=
      Option.some.inj (hchunks.symm.trans ((chunks?_eq hsetting).trans hchunks'))
    have hreport := halike.report completion
    obtain ⟨a, b, ha, hb, hsilent, hcommands, hpauses⟩ := hreport.exists_events
    exact .inr ⟨_, chunks, _, _, a, b, hrun, hrun', hchunks, hchunks', houtput, houtput', ha, hb,
      hsilent, hcommands, hpauses, congrArg (·.sensors) hreport.setting⟩

/-- A new board, and one whose display is lit, whose output holds something and which has waited. -/
theorem programs_start_afresh_used :
    let new := ({} : Host).configured {}
    let used := ((new.emit (.command (.setPixel 4 4 9))).print "9").sleep 100
    Moment {} {} new ∧ Moment {} {} used ∧ new.sensors = used.sensors ∧
      ({} : Script.Supply).next.1 = true ∧
      ((∃ crash, run Script.engine {} "print(1)" ({}, new) = .error crash ∧
          run Script.engine {} "print(1)" ({}, used) = .error crash) ∨
        ∃ outcome chunks w v,
          run Script.engine {} "print(1)" ({}, new) = .ok (.ok outcome, w) ∧
          run Script.engine {} "print(1)" ({}, used) = .ok (.ok outcome, v) ∧
          w.2.output = new.output.appendAll chunks ∧ v.2.output = used.output.appendAll chunks) := by
  intro new used
  have hnew : Moment {} {} new := .first
  have hlit : Moment {} {} (new.emit (.command (.setPixel 4 4 9))) :=
    hnew.served (s := {}) (r := .use (.setPixel 4 4 9)) rfl
  have hused : Moment {} {} used :=
    (hlit.printed "9").served (s := {}) (r := .use (.sleep 100)) rfl
  refine ⟨hnew, hused, rfl, rfl, ?_⟩
  rcases (programs_start_afresh hnew hused rfl (s := {}) (t := {}) rfl rfl "print(1)").1 with
    hcrash | ⟨outcome, chunks, w, v, _, _, hrun, hrun', -, -, houtput, houtput', -⟩
  · exact .inl hcrash
  · exact .inr ⟨outcome, chunks, w, v, hrun, hrun', houtput, houtput'⟩

end Simulator

end LedBoard
