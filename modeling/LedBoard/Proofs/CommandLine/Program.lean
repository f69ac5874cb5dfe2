import LedBoard.CommandLine.Perform
import LedBoard.Proofs.ActionMachine.Tame
import LedBoard.Proofs.Simulator.Machine
import LedBoard.Proofs.Terminal.Drawings

/-!
# Programs on a terminal

A program that is run from the command line is shown as it goes: what it prints is there at once,
and whenever it waits the display has been drawn just before. Which display that is follows from
the commands that were sent until then. In the end the display is drawn once more, and the status
tells whether the program failed.

* `Unreadable`: the files that are named cannot be used;
* `play_course`: what the terminal is made to do in the course of a run;
* `program_on_terminal`: what comes of a program that is run.
-/

namespace LedBoard.CommandLine

open Embedded (Address Did Machine PrintFunction Shared sourceName)
open Simulator
open Terminal (Palette Signal Step drawing)

/-! ## Reading -/

/-- The file of the program or that of the snapshot cannot be read, or there is no snapshot in
    it. -/
inductive Unreadable {δ : Type} (s : System δ) (d : δ) (program : String)
    (snapshot : Option String) : Prop
  | program {cause : Trouble} (h : s.readText d program = .error cause)
  | snapshot {path : String} {cause : Trouble} (hpath : snapshot = some path)
      (h : s.readText d path = .error cause)
  | invalid {path text : String} {problem : Json.Problem} (hpath : snapshot = some path)
      (h : s.readText d path = .ok text) (hjson : Sensors.updateJson {} text = .error problem)

section Reading

variable {δ : Type} {s : System δ} {d : δ} {program : String} {snapshot : Option String}

/-- A program is read with its snapshot just if both can be used. -/
theorem readSource_eq_error_iff :
    (∃ f, readSource s d program snapshot = .error f) ↔ Unreadable s d program snapshot := by
  -- The first failure decides: of the program, then of the snapshot, then of its text.
  cases hprogram : s.readText d program with
  | error cause =>
    refine ⟨fun _ => .program hprogram, fun _ => ⟨.file program cause, ?_⟩⟩
    rw [readSource, hprogram]
    rfl
  | ok source =>
    cases snapshot with
    | none =>
      have hread : readSource s d program none = .ok (source, {}) := by
        rw [readSource, hprogram]
        rfl
      rw [hread]
      refine ⟨nofun, fun h => ?_⟩
      cases h with
      | program h => cases hprogram.symm.trans h
      | snapshot hpath => cases hpath
      | invalid hpath => cases hpath
    | some path =>
      have hread : readSource s d program (some path) =
          (readSensors s d (some path)).map (source, ·) := by
        rw [readSource, hprogram]
        rfl
      rw [hread, readSensors]
      cases hpath : s.readText d path with
      | error cause => exact ⟨fun _ => .snapshot rfl hpath, fun _ => ⟨_, rfl⟩⟩
      | ok text =>
        change (∃ f, ((Sensors.updateJson {} text).mapError _).map _ = _) ↔ _
        cases hjson : Sensors.updateJson {} text with
        | error problem => exact ⟨fun _ => .invalid rfl hpath hjson, fun _ => ⟨_, rfl⟩⟩
        | ok sensors =>
          refine ⟨nofun, fun h => ?_⟩
          cases h with
          | program h => cases hprogram.symm.trans h
          | snapshot hsome h =>
            cases hsome
            cases hpath.symm.trans h
          | invalid hsome h hproblem =>
            cases hsome
            cases hpath.symm.trans h
            cases hjson.symm.trans hproblem

end Reading

/-! ## Showing -/

/-- What a terminal is made to do at an event of a run, where these events have passed. A chunk is
    shown as it is; before a wait the display is drawn, as it is by the commands sent so far. -/
def stepsOfRun (p : Palette) (past : List Event) : Event → List Step
  | .heard chunk => [.piece chunk]
  | .pause ms => [.piece (drawing p (Leds.blank.replay (Event.commands past))), .wait ms]
  | _ => []

/-- An event of the board, of what is printed there, or of a context. -/
def OfRun : Event → Prop
  | .consoleCleared | .told _ | .complained _ => False
  | _ => True

/-- At an event of a run the terminal is made to do what the events before it and this one say. -/
theorem steps_eq_stepsOfRun (p : Palette) (past : List Event) {event : Event} (h : OfRun event) :
    Terminal.steps p (Leds.blank.replay (Event.commands past)) event = stepsOfRun p past event := by
  cases event with
  | consoleCleared | told _ | complained _ => cases h
  | _ => rfl

theorem ofRun_hearing (chunk : String) : ∀ event ∈ Event.hearing chunk, OfRun event := by
  rw [Event.hearing]
  split
  · exact List.forall_mem_nil _
  · exact List.forall_mem_singleton.2 trivial

/-- What a deed brings about are events of a run. -/
theorem ofRun_happenings (frameMs : UInt64) (d : Deed) :
    ∀ event ∈ d.happenings frameMs, OfRun event := by
  intro event hevent
  cases d with
  | printed chunk => exact ofRun_hearing chunk event hevent
  | called name args =>
    have hevent : event ∈ (Deed.called name args).events frameMs := hevent
    rcases Deed.cases_of_mem_events hevent with ⟨_, _, _, -, -, rfl⟩ | rfl | ⟨text, -, hstroke⟩ |
      ⟨_, rfl⟩
    · trivial
    · trivial
    · obtain ⟨stroke, -, rfl⟩ := List.mem_map.1 hstroke
      cases stroke <;> trivial
    · trivial

/-- All events in the course of a run are such. -/
theorem ofRun_course (frameMs : UInt64) (code : String) (deeds : List Deed)
    (completion : Completion) : ∀ event ∈ course frameMs code deeds completion, OfRun event := by
  -- The end of a run brings the text of its error, and otherwise nothing.
  have hending : ∀ event ∈ ending completion, OfRun event := by
    cases completion with
    | error message => exact List.forall_mem_cons.2 ⟨trivial, ofRun_hearing message⟩
    | _ => exact List.forall_mem_nil _
  simp only [course, List.forall_mem_append, List.forall_mem_cons]
  refine ⟨⟨⟨⟨trivial, trivial, List.forall_mem_nil _⟩, ?_⟩, hending⟩, trivial,
    List.forall_mem_nil _⟩
  intro event hevent
  obtain ⟨d, -, hd⟩ := List.mem_flatMap.1 hevent
  exact ofRun_happenings frameMs d event hd

/-- What the terminal is made to do in the course of a run. -/
theorem play_course (p : Palette) {events : List Event} (h : ∀ event ∈ events, OfRun event) :
    Terminal.play p .blank events =
      (Event.withPast events).flatMap fun x => stepsOfRun p x.1 x.2 := by
  rw [Terminal.play_eq]
  refine List.flatMap_congr fun x hx => steps_eq_stepsOfRun p x.1 (h _ ?_)
  exact (List.of_mem_zip hx).2

/-! ## Running -/

variable {L O δ : Type} {machine : Machine L O} {printer : L → Address → Option PrintFunction}

/-- On the host of a terminal somebody listens, who does nothing but hear. -/
theorem terminalHost_heard (config : Config) (sensors : Sensors) (hasConsole : Bool) :
    (terminalHost config sensors hasConsole).Heard := ⟨.quiet "host", rfl, rfl⟩

/-- What comes of a program that is run: what was shown, and the status. -/
structure Displayed (p : Palette) (config : Config) (source : String) (deeds : List Deed)
    (completion : Completion) (r : Report) : Prop where
  events : r.events = course config.scrollFrameMs source deeds completion
  steps : Terminal.play p .blank r.events =
    (Event.withPast r.events).flatMap fun x => stepsOfRun p x.1 x.2
  shown : r.shown = (Terminal.play p .blank r.events).filterMap Step.piece? ++
    [drawing p (Leds.blank.replay (Event.commands r.events))]
  finished : r.status = 0 ↔ outcome completion = .finished ∨ outcome completion = .exited
  failed : r.status = 1 ↔ outcome completion = .failed

/-- The report of a run that ended so and left this host behind. -/
def reportOf (p : Palette) (path : String) (outcome : Outcome) (h : Host) : Report :=
  let r := Report.ofEvents p h.events
  let r := { r with shown := r.shown ++ [drawing p h.leds] }
  if outcome = .failed then r.failed p (.program path) else r

section ReportOf

variable (p : Palette) (path : String) (outcome : Outcome) (h : Host)

theorem reportOf_events : (reportOf p path outcome h).events = h.events := by
  cases outcome <;> rfl

theorem reportOf_shown :
    (reportOf p path outcome h).shown = Terminal.shown p .blank h.events ++ [drawing p h.leds] := by
  cases outcome <;> rfl

theorem reportOf_status :
    (reportOf p path outcome h).status = if outcome = .failed then 1 else 0 := by
  cases outcome <;> rfl

end ReportOf

/-- What is reported is what is displayed in the course that the run has taken. -/
theorem displayed_of_passed (p : Palette) (path : String) {config : Config} {source : String}
    {sensors : Sensors} {deeds : List Deed} {completion : Completion} {h : Host}
    (hpassed : (terminalHost config sensors false).Passed
      (course config.scrollFrameMs source deeds completion) h) :
    Displayed p config source deeds completion (reportOf p path (outcome completion) h) where
  events := (reportOf_events ..).trans hpassed.events
  steps := by
    rw [reportOf_events, hpassed.events]
    exact play_course p (ofRun_course config.scrollFrameMs source deeds completion)
  shown := by
    rw [reportOf_shown, reportOf_events, hpassed.leds, hpassed.events]
    rfl
  finished := by
    rw [reportOf_status]
    cases outcome completion <;> decide
  failed := by
    rw [reportOf_status]
    cases outcome completion <;> decide

/-- A program that was read runs, if its context is created and the machine does not crash. -/
theorem runProgram_displayed (hmachine : machine.Tame printer) (shared : Shared L) (p : Palette)
    (config : Config) (path source : String) (sensors : Sensors) {a : Address}
    (hsome : programContext machine config shared.library = some a) :
    ∃ i w₁, i.address = a ∧
      ((∃ crash, runProgram machine.engine shared p config path source sensors = .error crash ∧
          Starts machine config source (shared, terminalHost config sensors false) i w₁ ∧
          Ready printer a source (terminalHost config sensors false) w₁ ∧
          machine.execute a source sourceName w₁ = .error crash) ∨
        ∃ r completion w₂,
          runProgram machine.engine shared p config path source sensors = .ok r ∧
          Executed machine printer config source (shared, terminalHost config sensors false) i w₁
            completion w₂ ∧
          ∀ deeds, Did machine.toLibrary a w₁ deeds w₂ →
            Displayed p config source deeds completion r) := by
  have hheard := terminalHost_heard config sensors false
  obtain ⟨i, w₁, hi, hrun⟩ := run_passed hmachine source
    (w := (shared, terminalHost config sensors false)) hsome hheard
  refine ⟨i, w₁, hi, ?_⟩
  rcases hrun with ⟨crash, hrun, hstarts, hready, hexecute⟩ |
    ⟨completion, w₂, shared', h, hexecuted, hrun, hpassed⟩
  · refine .inl ⟨crash, ?_, hstarts, hready, hexecute⟩
    rw [runProgram, StateT.run, hrun]
    rfl
  · refine .inr ⟨_, completion, w₂, ?_, hexecuted, fun deeds hdeeds =>
      displayed_of_passed p path (hpassed deeds hdeeds)⟩
    rw [runProgram, StateT.run, hrun]
    rfl

/-- Without a context nothing is shown. -/
theorem runProgram_of_none (shared : Shared L) (p : Palette) (config : Config)
    (path source : String) (sensors : Sensors)
    (hnone : programContext machine config shared.library = none) :
    ∃ r, runProgram machine.engine shared p config path source sensors = .ok r ∧
      r.shown = [] ∧ r.status = 1 := by
  obtain ⟨shared', hrun⟩ := run_of_none config source
    (w := (shared, terminalHost config sensors false)) hnone
  refine ⟨_, by rw [runProgram, StateT.run, hrun]; rfl, rfl, rfl⟩

/-- A program that is run on a terminal, with any settings and any snapshot of the board, shows
    nothing and has the status 1 if its file or that of the snapshot cannot be used, or if no
    context is created for it. Otherwise it crashes only where the machine does, while it runs the
    code. And where it does not, then whatever the code is said to have done between the two worlds,
    in the order in which it happened every chunk that was printed and is not empty was shown, an
    uncaught error as the last one, and the display was drawn before every wait; in the end it was
    drawn once more. Each drawing shows the display as it is by the commands sent before. The status
    is 0 just if the program came to its end or asked to end, and 1 if it failed. -/
theorem program_on_terminal (hmachine : machine.Tame printer) (s : System δ) (d : δ)
    (shared : Shared L) (p : Palette) (config : Config) (signals : List Signal)
    (program : String) (snapshot : Option String) :
    (Unreadable s d program snapshot ∨ programContext machine config shared.library = none →
      ∃ r, carryOut s d machine.engine shared p config signals (.run program snapshot) = .ok r ∧
        r.shown = [] ∧ r.status = 1) ∧
    ∀ source sensors a, readSource s d program snapshot = .ok (source, sensors) →
      programContext machine config shared.library = some a →
      ∃ i w₁, i.address = a ∧
        ((∃ crash,
            carryOut s d machine.engine shared p config signals (.run program snapshot) =
              .error crash ∧
            Starts machine config source (shared, terminalHost config sensors false) i w₁ ∧
            Ready printer a source (terminalHost config sensors false) w₁ ∧
            machine.execute a source sourceName w₁ = .error crash) ∨
          ∃ r completion w₂,
            carryOut s d machine.engine shared p config signals (.run program snapshot) = .ok r ∧
            Executed machine printer config source (shared, terminalHost config sensors false) i w₁
              completion w₂ ∧
            ∀ deeds, Did machine.toLibrary a w₁ deeds w₂ →
              Displayed p config source deeds completion r) := by
  constructor
  -- What fails before the run begins is all of the failure, and nothing has been shown by then.
  · rintro hfails
    rw [carryOut]
    cases hread : readSource s d program snapshot with
    | error f => exact ⟨_, rfl, rfl, rfl⟩
    | ok x =>
      obtain ⟨source, sensors⟩ := x
      rcases hfails with hunreadable | hnone
      · obtain ⟨f, hf⟩ := readSource_eq_error_iff.2 hunreadable
        cases hf.symm.trans hread
      · obtain ⟨r, hrun, hshown, hstatus⟩ :=
          runProgram_of_none shared p config program source sensors hnone
        dsimp only
        rw [hrun]
        exact ⟨_, rfl, hshown, hstatus⟩
  · intro source sensors a hread hsome
    obtain ⟨i, w₁, hi, hrun⟩ :=
      runProgram_displayed hmachine shared p config program source sensors hsome
    refine ⟨i, w₁, hi, ?_⟩
    rw [carryOut, hread]
    dsimp only
    rcases hrun with ⟨crash, hrun, hstarts, hready, hexecute⟩ |
      ⟨r, completion, w₂, hrun, hexecuted, hdisplayed⟩
    · refine .inl ⟨crash, ?_, hstarts, hready, hexecute⟩
      rw [hrun]
      rfl
    · refine .inr ⟨{ r with left := signals }, completion, w₂, ?_, hexecuted,
        fun deeds hdeeds => ?_⟩
      · rw [hrun]
        rfl
      · obtain ⟨hevents, hsteps, hshown, hfinished, hfailed⟩ := hdisplayed deeds hdeeds
        exact ⟨hevents, hsteps, hshown, hfinished, hfailed⟩

/-! ### A text that scrolls -/

/-- A program that prints a line and scrolls a letter. -/
def scrolling : String := "import display\nprint('hi')\ndisplay.scroll('A')\n"

/-- A system with this program in a file. -/
def scrollingFile : System Unit where
  read _ path := if path = "main.py" then .ok (Text.encode scrolling) else .error .notFound
  openLog _ _ := .ok ()
  openHistory _ := .ok ()
  lookup _ := none
  now := ⟨0, 0, 0⟩

/-- A machine that knows what the program does, and no other. -/
def scrollingMachine : Machine ActionMachine.State ActionMachine.Object :=
  { ActionMachine.machine with
    execute := fun a _ _ => do
      let _ ← ActionMachine.importModule a "display"
      ActionMachine.print a (some (Text.encode "hi\n")) 3
      let _ ← ActionMachine.callWith a (.function "scroll" 1) [.ofText "A"] 1
      return true }

theorem scrollingMachine_tame : scrollingMachine.Tame ActionMachine.printer :=
  ActionMachine.tame_of_behaves rfl fun _ _ _ _ =>
    .bind (ActionMachine.Behaves.importModule _) fun _ =>
      .bind (ActionMachine.Behaves.printing _ _) fun _ =>
        .bind (ActionMachine.Behaves.callWith _ _ _) fun _ => .pure _

/-- The line is shown first. Then the letter is drawn twelve times, at the twelfth time as a blank
    display, and so it is once more in the end; the second drawing has its first column. -/
theorem program_on_terminal_scrolling :
    ∃ r i w₁ completion w₂, i.address = 0 ∧
      carryOut scrollingFile () scrollingMachine.engine { library := {} } .plain {} []
        (.run "main.py" none) = .ok r ∧
      Executed scrollingMachine ActionMachine.printer {} scrolling
        ({ library := {} }, terminalHost {} {} false) i w₁ completion w₂ ∧
      (∀ deeds, Did scrollingMachine.toLibrary 0 w₁ deeds w₂ →
        Displayed .plain {} scrolling deeds completion r) ∧
      r.status = 0 ∧ r.shown.length = 14 ∧ r.shown[0]? = some "hi\n" ∧
      r.shown[2]? =
        some ". . . . . \n. . . . 9 \n. . . . 9 \n. . . . 9 \n. . . . 9 \n\n" := by
  have htext : scrollingFile.readText () "main.py" = .ok scrolling := by decide +kernel
  have hread : readSource scrollingFile () "main.py" none = .ok (scrolling, {}) := by
    rw [readSource, htext]
    rfl
  -- The report is evaluated; that it shows the run as it went is the theorem.
  have hreport : (carryOut scrollingFile () scrollingMachine.engine { library := {} } .plain {} []
      (.run "main.py" none)).toOption.map
        (fun r => (r.status, r.shown.length, r.shown[0]?, r.shown[2]?)) =
      some (0, 14, some "hi\n",
        some ". . . . . \n. . . . 9 \n. . . . 9 \n. . . . 9 \n. . . . 9 \n\n") := by
    decide +kernel
  obtain ⟨i, w₁, hi, hrun⟩ := (program_on_terminal scrollingMachine_tame scrollingFile ()
    { library := {} } .plain {} [] "main.py" none).2 scrolling {} 0 hread rfl
  rcases hrun with ⟨crash, hcrash, -⟩ | ⟨r, completion, w₂, hr, hexecuted, hdisplayed⟩
  · rw [hcrash] at hreport
    cases hreport
  · rw [hr] at hreport
    have htold := Option.some.inj hreport
    simp only [Prod.mk.injEq] at htold
    obtain ⟨hstatus, hlength, hfirst, hthird⟩ := htold
    exact ⟨r, i, w₁, completion, w₂, hi, hr, hexecuted, hdisplayed, hstatus, hlength, hfirst,
      hthird⟩

end LedBoard.CommandLine
