import LedBoard.Proofs.Board.Passage
import LedBoard.Proofs.Embedded.Performing
import LedBoard.Simulator

/-!
# The run of a program in a machine

A program that runs in a context of a machine can call no native functions but those of the
modules of the board, since no others are filed for its context (`Boarded`). So the events that
pass while it runs are those that its deeds bring about, in their order: what it prints is heard,
and its calls do on the board what they do (`Performs.passed`).

Around that, a run creates its context, registers the modules of the board, for which there are
loaders enough, and lets go of the context in the end.

* `Is`, `Did`: what code does, told as deeds of a script on the board;
* `Performs.passed`: however it is told, the events that pass are those of the deeds;
* `run_of_none`, `run_of_some`: the run of a program whose context is not, or is, created;
* `Executed`: the run of its code, between the worlds before and behind it.
-/

namespace LedBoard

open Embedded

/-! ## Deeds on the board -/

/-- The function is a function of the board of this name. -/
def Devices.Offers (name : String) (f : Native Host) : Prop := ∃ m ∈ all, (name, f) ∈ m.functions

theorem Devices.Offers.acts {name : String} {f : Native Host} (h : Offers name f) :
    Acts name f := by
  obtain ⟨m, hm, hf⟩ := h
  exact all_acts m hm _ hf

/-- What code does is this deed of a script on the board. -/
inductive Embedded.Doing.Is : Doing → Deed → Prop
  | printed (chunk : String) : Is (.printed chunk) (.printed chunk)
  | called {name : String} {f : Native Host} (hf : Devices.Offers name f) (args : List Value) :
      Is (.called f args) (.called name args)

namespace Embedded

variable {L O : Type} {lib : Library L O} {a : Address}

/-- Code that ran from `w` to `w'`, in a context that prints on the host, did these deeds there. -/
def Did (lib : Library L O) (a : Address) (w : World L) (deeds : List Deed) (w' : World L) : Prop :=
  ∃ doings, Performs lib (some (printTo Host.print)) a w doings w' ∧
    List.Forall₂ Doing.Is doings deeds

/-- The context has modules of the board only, and only their functions are filed for it. -/
def Boarded (a : Address) (w : World L) : Prop :=
  ∀ t, w.1.tables a = some t →
    (∀ m ∈ t.modules, m ∈ Devices.all) ∧ ∀ f ∈ t.natives, ∃ name, Devices.Offers name f

theorem Boarded.of_tables {w w' : World L} (h : Boarded a w)
    (htables : w'.1.tables = w.1.tables) : Boarded a w' := by
  rwa [Boarded, htables]

/-- A context stays so when functions of the board are bound in it. -/
theorem Boarded.files {w w' : World L} (h : Boarded a w) {fs : List (String × Native Host)}
    (hfs : ∀ x ∈ fs, Devices.Offers x.1 x.2) (hfiles : Files lib a fs w w') : Boarded a w' := by
  intro t' ht'
  obtain ⟨t, ht, hmodules, hnatives⟩ := hfiles.filed t' ht'
  refine ⟨hmodules ▸ (h t ht).1, fun f hf => ?_⟩
  rcases hnatives f hf with hf | ⟨name, hf⟩
  · exact (h t ht).2 f hf
  · exact ⟨name, hfs _ hf⟩

/-- What a print function does that hands on what is printed. -/
theorem printTo_passed {h : Host} (hheard : h.Heard) (octets : Option Text.Octets) (n : Int) :
    h.Passed ((Deed.printed (chunkOf octets n)).happenings h.frameMs)
      (printTo Host.print octets n h) := by
  match octets with
  | none => exact .refl h
  | some octets =>
    rw [printTo, chunkOf]
    split
    · exact .refl h
    · exact Host.print_passed hheard _

/-- A call that a context makes of a function of the board. -/
theorem guarded_passed {name : String} {f : Native Host} (hf : Devices.Acts name f)
    {args : List Value} {w w' : World L} {r : Option (Except ScriptError Value)}
    (hcall : guarded (f args) w = .ok (r, w')) :
    w'.1 = w.1 ∧ w.2.Passed ((Deed.called name args).happenings w.2.frameMs) w'.2 := by
  obtain ⟨answer, sensors, hacts⟩ := hf args w.2.setting
  have hrun := hacts w.2 rfl
  rw [guarded, hrun] at hcall
  cases hcall
  exact ⟨rfl, hf.passed hrun⟩

/-- However the run of code is told that has the modules of the board, and prints to a host where
    somebody listens, it is told as deeds of a script on the board; and the events that pass are
    those of its deeds. -/
theorem Performs.passed {w w' : World L} {doings : List Doing}
    (h : Performs lib (some (printTo Host.print)) a w doings w') (hboarded : Boarded a w)
    (hheard : w.2.Heard) :
    (∃ deeds, List.Forall₂ Doing.Is doings deeds) ∧
      (∀ deeds, List.Forall₂ Doing.Is doings deeds →
        w.2.Passed (deeds.flatMap (Deed.happenings w.2.frameMs)) w'.2) ∧ Boarded a w' := by
  -- By induction on what the code does; that only functions of the board are filed is kept.
  induction h with
  | refl w => exact ⟨⟨[], .nil⟩, fun _ h => by cases h; exact .refl _, hboarded⟩
  | @trans w w' w'' ds ds' _ _ ih ih' =>
    obtain ⟨⟨deeds, his⟩, hpassed, hboarded'⟩ := ih hboarded hheard
    have hpassed₁ := hpassed deeds his
    obtain ⟨⟨deeds', his'⟩, hpassed', hboarded''⟩ := ih' hboarded' (hheard.passed hpassed₁)
    refine ⟨⟨deeds ++ deeds', List.rel_append his his'⟩, fun told htold => ?_, hboarded''⟩
    -- The deeds that are told are those of the first part and those of the second.
    have hfirst := List.forall₂_take ds.length htold
    have hsecond := List.forall₂_drop ds.length htold
    rw [List.take_left] at hfirst
    rw [List.drop_left] at hsecond
    have hpassed₂ := hpassed' _ hsecond
    rw [hpassed₁.frameMs] at hpassed₂
    rw [← List.take_append_drop ds.length told, List.flatMap_append]
    exact (hpassed _ hfirst).trans hpassed₂
  | inside w library => exact ⟨⟨[], .nil⟩, fun _ h => by cases h; exact .refl _, hboarded⟩
  | printed hf w octets n =>
    cases hf
    refine ⟨⟨_, .cons (.printed _) .nil⟩, fun _ h => ?_, hboarded⟩
    obtain ⟨_, _, ⟨⟩, ⟨⟩, rfl⟩ := List.forall₂_cons_left_iff.1 h
    rw [List.flatMap_singleton]
    exact printTo_passed hheard octets n
  | filed hm hbind =>
    obtain ⟨t, ht, hm⟩ := Option.bind_eq_some_iff.1 hm
    have hmem := (hboarded t ht).1 _ (List.mem_of_getElem? hm)
    have hfiles := bindFunctions_files hbind
    refine ⟨⟨[], .nil⟩, fun _ h => ?_, hboarded.files (fun x hx => ⟨_, hmem, hx⟩) hfiles⟩
    cases h
    rw [hfiles.host]
    exact .refl _
  | called hf hcall =>
    obtain ⟨t, ht, hf⟩ := Option.bind_eq_some_iff.1 hf
    obtain ⟨name, hoffers⟩ := (hboarded t ht).2 _ (List.mem_of_getElem? hf)
    refine ⟨⟨_, .cons (.called hoffers _) .nil⟩, fun _ h => ?_, ?_⟩
    · obtain ⟨_, _, his, ⟨⟩, rfl⟩ := List.forall₂_cons_left_iff.1 h
      cases his with
      | called hoffers' =>
        rw [List.flatMap_singleton]
        exact (guarded_passed hoffers'.acts hcall).2
    · exact hboarded.of_tables (congrArg Shared.tables (guarded_passed hoffers.acts hcall).1)

/-! ## Around the run -/

section Around

variable {machine : Machine L O} {printer : L → Address → Option PrintFunction}

/-- Nothing but the machine has changed if no context is created. -/
theorem create_of_none {config : EngineConfig Host} {w : World L}
    (hnone : (machine.createContext (machine.contextConfig config) w.1.library).1 = none) :
    ∃ shared, machine.create config w = .ok (.error .createFailed, (shared, w.2)) := by
  cases hcreate : machine.createContext (machine.contextConfig config) w.1.library with
  | mk answer l =>
    rw [hcreate] at hnone
    obtain rfl : answer = none := hnone
    exact ⟨_, Run.bind_of_ok (onLibrary_of_eq hcreate)⟩

/-- A context that is created has a table without modules, and prints as its settings say. -/
theorem create_of_some (hmachine : machine.Tame printer) {config : EngineConfig Host}
    {w : World L} {a : Address}
    (hsome : (machine.createContext (machine.contextConfig config) w.1.library).1 = some a) :
    ∃ i shared, i.address = a ∧ shared.tables a = some {} ∧
      printer shared.library a = (machine.contextConfig config).print ∧
      machine.create config w = .ok (.ok i, (shared, w.2.emit .contextCreated)) := by
  have hprint := hmachine.created _ _ _ hsome
  cases hcreate : machine.createContext (machine.contextConfig config) w.1.library with
  | mk answer l =>
    rw [hcreate] at hsome hprint
    obtain rfl : answer = some a := hsome
    have hkept := hmachine.getGlobal a "SystemExit" l
    cases hclass : machine.getGlobal a "SystemExit" l with
    | mk systemExit l' =>
      rw [hclass] at hkept
      have hfound : onLibrary (machine.getGlobal a "SystemExit") (⟨w.1.tables, l⟩, w.2) =
          .ok (systemExit, (⟨w.1.tables, l'⟩, w.2)) := onLibrary_of_eq hclass
      have hself := Bindings.bind_self w.1.tables a ({} : Table)
      -- A reference is taken only if there is such a class.
      cases systemExit with
      | none =>
        exact ⟨⟨a, none⟩, ⟨w.1.tables.bind a {}, l'⟩, rfl, hself, hkept.trans hprint,
          (Run.bind_of_ok (onLibrary_of_eq hcreate)).trans (Run.bind_of_ok hfound)⟩
      | some e =>
        exact ⟨⟨a, some e⟩, ⟨w.1.tables.bind a {}, (machine.incRef a e l').2⟩, rfl, hself,
          (hmachine.incRef a e l').trans (hkept.trans hprint),
          (Run.bind_of_ok (onLibrary_of_eq hcreate)).trans (Run.bind_of_ok hfound)⟩

/-- A module is registered if its name can be handed over and a loader is left for it. -/
theorem addModule_of_room (hmachine : machine.Tame printer) {i : Instance O} {w : World L}
    {t : Table} (ht : w.1.tables i.address = some t) {m : Module Host}
    (hname : Text.holdsNul m.name = false) (hroom : t.modules.length < loaderSlots) :
    ∃ shared, shared.tables i.address = some { t with modules := t.modules ++ [m] } ∧
      printer shared.library i.address = printer w.1.library i.address ∧
      machine.addModule i m w = .ok (.ok (), (shared, w.2)) := by
  have htable : table? i.address w = .ok (some t, w) :=
    congrArg (fun t => Except.ok (t, w)) ht
  refine ⟨⟨w.1.tables.bind i.address { t with modules := t.modules ++ [m] },
    (machine.registerModule i.address m.name t.modules.length w.1.library).2⟩,
    Bindings.bind_self .., hmachine.registerModule _ _ _ _, ?_⟩
  rw [Machine.addModule, hname, if_neg Bool.false_ne_true, Run.bind_of_ok htable]
  dsimp only
  rw [if_pos hroom]
  rfl

/-- So several are, for which loaders are left. -/
theorem registerModules_of_room (hmachine : machine.Tame printer) {i : Instance O}
    {ms : List (Module Host)} (hnames : ∀ m ∈ ms, Text.holdsNul m.name = false) {w : World L}
    {t : Table} (ht : w.1.tables i.address = some t)
    (hroom : t.modules.length + ms.length ≤ loaderSlots) :
    ∃ shared, shared.tables i.address = some { t with modules := t.modules ++ ms } ∧
      printer shared.library i.address = printer w.1.library i.address ∧
      machine.engine.registerModules i ms w = .ok ((.ok (), i), (shared, w.2)) := by
  induction ms generalizing w t with
  | nil =>
    refine ⟨w.1, ?_, rfl, rfl⟩
    rw [List.append_nil]
    exact ht
  | cons m rest ih =>
    obtain ⟨hname, hnames⟩ := List.forall_mem_cons.1 hnames
    rw [List.length_cons] at hroom
    obtain ⟨shared, ht', hprint, hadd⟩ := addModule_of_room hmachine ht hname (by omega)
    obtain ⟨shared', ht'', hprint', hrest⟩ := ih hnames (w := (shared, w.2)) ht'
      (by rw [List.length_append, List.length_singleton]; omega)
    rw [List.append_assoc] at ht''
    refine ⟨shared', ht'', hprint'.trans hprint, ?_⟩
    have hregister : machine.engine.registerModule i m w = .ok ((.ok (), i), (shared, w.2)) :=
      Run.bind_of_ok hadd
    exact (Run.bind_of_ok hregister).trans hrest

/-- Clearing the exception is a matter of the machine. -/
theorem clearException_apply (machine : Machine L O) (i : Instance O) (w : World L) :
    ∃ shared, machine.engine.clearException i w = .ok (i, (shared, w.2)) := ⟨_, rfl⟩

/-- Letting go of an instance always succeeds. -/
theorem drop_returns (machine : Machine L O) (i : Instance O) (w : World L) :
    ∃ shared, machine.engine.drop i w = .ok ((), (shared, w.2.emit .contextDestroyed)) := by
  obtain ⟨a, systemExit⟩ := i
  cases systemExit with
  | none => exact ⟨_, rfl⟩
  | some e => exact ⟨_, rfl⟩

end Around

end Embedded

/-! ## The run -/

namespace Simulator

variable {L O : Type} {machine : Machine L O} {printer : L → Address → Option PrintFunction}

/-- What the instance is given in which a program runs. -/
def programConfig (config : Config) : EngineConfig Host :=
  { enableOsAccess := config.enableOsAccess, print := some Host.print }

/-- The context that the machine creates for a program, if it creates one. -/
def programContext (machine : Machine L O) (config : Config) (l : L) : Option Address :=
  (machine.createContext (machine.contextConfig (programConfig config)) l).1

/-- The names of the modules of the board can be handed over, and there are loaders for all. -/
theorem all_fit :
    (∀ m ∈ Devices.all, Text.holdsNul m.name = false) ∧ Devices.all.length ≤ loaderSlots := by
  refine ⟨?_, by decide⟩
  simp only [Devices.all, List.forall_mem_cons]
  exact ⟨by decide, by decide, by decide, by decide, by decide, by decide, List.forall_mem_nil _⟩

/-- A program whose context is not created does not run. -/
theorem run_of_none (config : Config) (code : String) {w : World L}
    (hnone : programContext machine config w.1.library = none) :
    ∃ shared, run machine.engine config code w =
      .ok (.error (.live .createFailed), (shared, w.2)) := by
  obtain ⟨shared, hcreate⟩ := create_of_none hnone
  exact ⟨shared, Run.bind_of_ok hcreate⟩

/-- The world in which a program starts: its context has just the modules of the board, and what
    it prints is printed on the host. -/
structure Ready (printer : L → Address → Option PrintFunction) (a : Address) (code : String)
    (h : Host) (w : World L) : Prop where
  tables : w.1.tables a = some { modules := Devices.all }
  prints : printer w.1.library a = some (printTo Host.print)
  host : w.2 = (h.emit .contextCreated).emit (.programStarted code.utf8ByteSize)

/-- What is done from the world `w` on before the code of a program runs: its instance is created,
    the modules of the board are registered in it, and its start is noted. -/
inductive Starts (machine : Machine L O) (config : Config) (code : String) (w : World L) :
    Instance O → World L → Prop
  | mk {i : Instance O} {w₁ w₂ : World L}
      (hcreate : machine.engine.create (programConfig config) w = .ok (.ok i, w₁))
      (hregister : machine.engine.registerModules i Devices.all w₁ = .ok ((.ok (), i), w₂)) :
      Starts machine config code w i (w₂.1, w₂.2.emit (.programStarted code.utf8ByteSize))

/-- A program whose context is created starts in a world that is ready for it. -/
theorem exists_starts (hmachine : machine.Tame printer) {config : Config} (code : String)
    {w : World L} {a : Address} (hsome : programContext machine config w.1.library = some a) :
    ∃ i w₁, i.address = a ∧ Starts machine config code w i w₁ ∧ Ready printer a code w.2 w₁ := by
  obtain ⟨i, shared, rfl, ht, hprint, hcreate⟩ := create_of_some hmachine hsome
  obtain ⟨shared', ht', hprint', hregister⟩ := registerModules_of_room hmachine all_fit.1
    (w := (shared, w.2.emit .contextCreated)) ht (by simpa using all_fit.2)
  exact ⟨i, _, rfl, .mk hcreate hregister, ht', hprint'.trans hprint, rfl⟩

theorem run_of_crash {config : Config} {code : String} {w w₁ : World L} {i : Instance O}
    (hstarts : Starts machine config code w i w₁) {crash : Crash}
    (hcrash : machine.runStatements i code w₁ = .error crash) :
    run machine.engine config code w = .error crash := by
  obtain ⟨hcreate, hregister⟩ := hstarts
  refine (Run.bind_of_ok hcreate).trans ((Run.bind_of_ok hregister).trans ?_)
  refine (Run.bind_of_ok rfl).trans (Run.bind_of_error _ ?_)
  exact Run.bind_of_error _ hcrash

/-- A program that starts runs as statements; then it is reported how it ended, and the context is
    let go of. -/
theorem run_of_some {config : Config} {code : String} {w w₁ w₂ : World L} {i : Instance O}
    {completion : Completion} (hstarts : Starts machine config code w i w₁)
    (hrun : machine.runStatements i code w₁ = .ok (completion, w₂)) :
    ∃ shared, run machine.engine config code w = .ok (.ok (outcome completion),
      (shared, (report completion w₂.2).emit .contextDestroyed)) := by
  obtain ⟨hcreate, hregister⟩ := hstarts
  obtain ⟨s₁, hclear⟩ := clearException_apply machine i (w₂.1, report completion w₂.2)
  obtain ⟨s₂, hdrop⟩ := drop_returns machine i (s₁, report completion w₂.2)
  have hexecute : machine.engine.execute i code _ = .ok ((completion, i), w₂) :=
    Run.bind_of_ok hrun
  have hreport : Run.onHost (fun h : Host => ((), report completion h)) w₂ =
      .ok ((), (w₂.1, report completion w₂.2)) := rfl
  refine ⟨s₂, (Run.bind_of_ok hcreate).trans ((Run.bind_of_ok hregister).trans ?_)⟩
  refine (Run.bind_of_ok rfl).trans ((Run.bind_of_ok hexecute).trans ?_)
  refine (Run.bind_of_ok hreport).trans ?_
  exact (Run.bind_of_ok hclear).trans (Run.bind_of_ok hdrop)

/-- What happens at the end of a run. -/
def ending : Completion → List Event
  | .error message => .programFailed message :: Event.hearing message
  | _ => []

/-- What happens from the beginning of a run to its end, where the code does these deeds. -/
def course (frameMs : UInt64) (code : String) (deeds : List Deed) (completion : Completion) :
    List Event :=
  [.contextCreated, .programStarted code.utf8ByteSize] ++ deeds.flatMap (Deed.happenings frameMs) ++
    ending completion ++ [.contextDestroyed]

theorem report_passed {h : Host} (hheard : h.Heard) (completion : Completion) :
    h.Passed (ending completion) (report completion h) := by
  cases completion with
  | error message =>
    have hpassed := h.emit_passed (.programFailed message)
    exact hpassed.trans (Host.print_passed (hheard.passed hpassed) message)
  | _ => exact .refl h

/-- The code of a program ran from the world `w₁`, in which the program started, to `w₂`, and its
    run ended so. There it did something, and however that is told, it did deeds of a script on the
    board. -/
structure Executed (machine : Machine L O) (printer : L → Address → Option PrintFunction)
    (config : Config) (code : String) (w : World L) (i : Instance O) (w₁ : World L)
    (completion : Completion) (w₂ : World L) : Prop where
  starts : Starts machine config code w i w₁
  ready : Ready printer i.address code w.2 w₁
  ends : machine.runStatements i code w₁ = .ok (completion, w₂)
  did : ∃ doings,
    Performs machine.toLibrary (some (printTo Host.print)) i.address w₁ doings w₂
  told : ∀ doings,
    Performs machine.toLibrary (some (printTo Host.print)) i.address w₁ doings w₂ →
      ∃ deeds, List.Forall₂ Doing.Is doings deeds

/-- The run of a program whose context is created crashes only where the machine does while it runs
    the code. Otherwise it tells how the code ended; and where somebody listens, whatever deeds the
    code is said to have done, the events that pass are those of these deeds between the events of
    the context. -/
theorem run_passed (hmachine : machine.Tame printer) {config : Config} (code : String)
    {w : World L} {a : Address} (hsome : programContext machine config w.1.library = some a)
    (hheard : w.2.Heard) :
    ∃ i w₁, i.address = a ∧
      ((∃ crash, run machine.engine config code w = .error crash ∧
          Starts machine config code w i w₁ ∧ Ready printer a code w.2 w₁ ∧
          machine.execute a code sourceName w₁ = .error crash) ∨
        ∃ completion w₂ shared h, Executed machine printer config code w i w₁ completion w₂ ∧
          run machine.engine config code w = .ok (.ok (outcome completion), (shared, h)) ∧
          ∀ deeds, Did machine.toLibrary a w₁ deeds w₂ →
            w.2.Passed (course w.2.frameMs code deeds completion) h) := by
  obtain ⟨i, w₁, rfl, hstarts, hready⟩ := exists_starts hmachine code hsome
  refine ⟨i, w₁, rfl, ?_⟩
  cases hrun : machine.runStatements i code w₁ with
  | error crash =>
    exact .inl ⟨crash, run_of_crash hstarts hrun, hstarts, hready,
      execute_of_runStatements_crash hrun⟩
  | ok x =>
    obtain ⟨completion, w₂⟩ := x
    obtain ⟨shared, hreturn⟩ := run_of_some hstarts hrun
    have hdid := runStatements_performs hmachine hrun
    -- What the context prints by is the host's own print, so what is printed can be heard.
    rw [hready.prints] at hdid
    have hstart : w.2.Passed [.contextCreated, .programStarted code.utf8ByteSize] w₁.2 := by
      rw [hready.host]
      exact w.2.emitAll_passed _
    have hboarded : Boarded i.address w₁ := by
      rw [Boarded, hready.tables]
      rintro _ ⟨⟩
      exact ⟨fun m hm => hm, List.forall_mem_nil _⟩
    have hheard₁ := hheard.passed hstart
    refine .inr ⟨completion, w₂, shared, _, ⟨hstarts, hready, hrun, hdid, fun doings h =>
      (h.passed hboarded hheard₁).1⟩, hreturn, ?_⟩
    rintro deeds ⟨doings, hperforms, hdeeds⟩
    have hpassed := (hperforms.passed hboarded hheard₁).2.1 deeds hdeeds
    rw [hstart.frameMs] at hpassed
    have hend := report_passed (hheard₁.passed hpassed) completion
    exact ((hstart.trans hpassed).trans hend).trans (Host.emit_passed _ _)

end Simulator

end LedBoard
