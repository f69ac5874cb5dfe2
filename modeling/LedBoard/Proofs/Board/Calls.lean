import LedBoard.Devices
import LedBoard.Proofs.Display.Range
import LedBoard.Proofs.Host.Commands
import LedBoard.Proofs.Module.Building
import LedBoard.Proofs.Script.Journal

/-!
# What the board does for a script

A script reaches the board through the native functions of its modules, and what such a call
brings about can be read off the call: a dot is set if the numbers name one, a text is scrolled,
the display is blanked, the script waits, and else nothing happens (`Deed.events`). What the call
answers, and what it leaves of the sensors, depends on the setting of the host, that is, on its
settings and its sensors alone; not on the display, the output or the trace.

* `Deed.events`, `Deed.commands`: what a call brings about, and what of it reaches the display;
* `Devices.Acts`: a native function does this and nothing else;
* `Devices.all_acts`: all functions of the board do.
-/

namespace LedBoard

/-! ## The events of a call -/

/-- The numbers are a column, a row and a brightness of the display. -/
def IsDot (x y brightness : Int64) : Prop :=
  (0 ≤ x.toInt ∧ x.toInt < 5) ∧ (0 ≤ y.toInt ∧ y.toInt < 5) ∧
    0 ≤ brightness.toInt ∧ brightness.toInt ≤ 9

instance (x y brightness : Int64) : Decidable (IsDot x y brightness) :=
  inferInstanceAs (Decidable (_ ∧ _ ∧ _))

/-- The command that sets a dot. -/
def Command.dot (x y brightness : Int64) : Command :=
  .setPixel (.ofNat x.toInt.toNat) (.ofNat y.toInt.toNat) (.ofNat brightness.toInt.toNat)

namespace Deed

/-- What `set_pixel` brings about. -/
def setPixelEvents : List Value → List Event
  | [.int x, .int y, .int brightness] =>
    if IsDot x y brightness then [.command (.dot x y brightness)] else []
  | _ => []

/-- What `clear` brings about. -/
def clearEvents : List Value → List Event
  | [] => [.command .clearDisplay]
  | _ => []

/-- What `scroll` brings about, where a frame of scrolling text is held for `frameMs`. -/
def scrollEvents (frameMs : UInt64) : List Value → List Event
  | [.str text] => (Scroll.film text.toList frameMs).map Stroke.event
  | _ => []

/-- What `sleep` brings about. -/
def sleepEvents : List Value → List Event
  | [.int ms] => [.pause (.ofNat ms.toInt.toNat)]
  | _ => []

/-- The number of arguments that a function of the board takes. -/
def arity (name : String) : Nat :=
  if name = "set_pixel" then 3 else if name = "scroll" ∨ name = "sleep" then 1 else 0

/-- What the board does when a script calls one of its functions with the right number of
    arguments; it does nothing if the number is wrong. -/
def events (frameMs : UInt64) : Deed → List Event
  | .printed _ => []
  | .called name args =>
    if args.length ≠ arity name then []
    else if name = "set_pixel" then setPixelEvents args
    else if name = "clear" then clearEvents args
    else if name = "scroll" then scrollEvents frameMs args
    else if name = "sleep" then sleepEvents args
    else []

theorem events_of_length_ne {name : String} {args : List Value}
    (hlen : args.length ≠ arity name) (frameMs : UInt64) :
    events frameMs (.called name args) = [] := if_pos hlen

/-- A dot is sent to the display if there is such a dot, and otherwise nothing is. -/
theorem events_setPixel (frameMs : UInt64) (x y brightness : Int64) :
    events frameMs (.called "set_pixel" [.int x, .int y, .int brightness]) =
      if IsDot x y brightness then [.command (.dot x y brightness)] else [] := rfl

/-- What of it reaches the display. -/
def commands (frameMs : UInt64) (d : Deed) : List Command := Event.commands (d.events frameMs)

end Deed

/-- The command that sets a dot carries exactly the numbers of the dot. -/
theorem IsDot.toNat_eq {x y brightness : Int64} (hdot : IsDot x y brightness) :
    ∃ column row v, Command.dot x y brightness = .setPixel column row v ∧
      (column.toNat : Int) = x.toInt ∧ (row.toNat : Int) = y.toInt ∧
      (v.toNat : Int) = brightness.toInt := by
  have hnat : ∀ n : Int64, 0 ≤ n.toInt → n.toInt ≤ 9 →
      ((UInt8.ofNat n.toInt.toNat).toNat : Int) = n.toInt := by
    intro n hlow hhigh
    rw [UInt8.toNat_ofNat_of_lt' (by rw [UInt8.size]; omega), Int.toNat_of_nonneg hlow]
  obtain ⟨hx, hy, hbrightness⟩ := hdot
  exact ⟨_, _, _, rfl, hnat x hx.1 (by omega), hnat y hy.1 (by omega),
    hnat brightness hbrightness.1 hbrightness.2⟩

/-- The command for a dot that there is has numbers in range. -/
theorem IsDot.inRange {x y brightness : Int64} (hdot : IsDot x y brightness) :
    (Command.dot x y brightness).InRange := by
  obtain ⟨column, row, v, heq, hx, hy, hv⟩ := hdot.toNat_eq
  obtain ⟨⟨-, hx'⟩, ⟨-, hy'⟩, -, hbrightness⟩ := hdot
  rw [heq]
  refine ⟨UInt8.le_iff_toNat_le.2 ?_, UInt8.le_iff_toNat_le.2 ?_, UInt8.le_iff_toNat_le.2 ?_⟩
  · change column.toNat ≤ 4
    omega
  · change row.toNat ≤ 4
    omega
  · change v.toNat ≤ 9
    omega

namespace Deed

/-- What happens at a call to set a dot is the command for this dot. -/
theorem exists_of_mem_setPixelEvents {args : List Value} {e : Event}
    (he : e ∈ setPixelEvents args) :
    ∃ x y brightness, args = [.int x, .int y, .int brightness] ∧ IsDot x y brightness ∧
      e = .command (.dot x y brightness) := by
  rw [setPixelEvents.eq_def] at he
  split at he
  next x y brightness =>
    split at he
    next hdot => exact ⟨x, y, brightness, rfl, hdot, List.mem_singleton.1 he⟩
    next => exact absurd he List.not_mem_nil
  next => exact absurd he List.not_mem_nil

/-- What happens at a call to blank the display is the command for that. -/
theorem eq_of_mem_clearEvents {args : List Value} {e : Event} (he : e ∈ clearEvents args) :
    e = .command .clearDisplay := by
  rw [clearEvents.eq_def] at he
  split at he
  next => exact List.mem_singleton.1 he
  next => exact absurd he List.not_mem_nil

/-- What happens at a call to scroll a text are the strokes of its film. -/
theorem exists_of_mem_scrollEvents {frameMs : UInt64} {args : List Value} {e : Event}
    (he : e ∈ scrollEvents frameMs args) :
    ∃ text, args = [.str text] ∧ e ∈ (Scroll.film text.toList frameMs).map Stroke.event := by
  rw [scrollEvents.eq_def] at he
  split at he
  next text => exact ⟨text, rfl, he⟩
  next => exact absurd he List.not_mem_nil

theorem exists_of_mem_sleepEvents {args : List Value} {e : Event} (he : e ∈ sleepEvents args) :
    ∃ ms, e = .pause ms := by
  rw [sleepEvents.eq_def] at he
  split at he
  next => exact ⟨_, List.mem_singleton.1 he⟩
  next => exact absurd he List.not_mem_nil

/-- A call that brings about something sets a dot with the numbers given, blanks the display,
    scrolls a text, or waits. -/
theorem cases_of_mem_events {frameMs : UInt64} {d : Deed} {e : Event}
    (he : e ∈ d.events frameMs) :
    (∃ x y brightness, d = .called "set_pixel" [.int x, .int y, .int brightness] ∧
      IsDot x y brightness ∧ e = .command (.dot x y brightness)) ∨
    e = .command .clearDisplay ∨
    (∃ text, d = .called "scroll" [.str text] ∧
      e ∈ (Scroll.film text.toList frameMs).map Stroke.event) ∨
    ∃ ms, e = .pause ms := by
  cases d with
  | printed chunk => exact absurd he List.not_mem_nil
  | called name args =>
    -- The name of the call decides which events there are.
    -- The name of the call decides which events there are.
    rw [events] at he
    split at he
    next => exact absurd he List.not_mem_nil
    split at he
    next hname =>
      obtain ⟨x, y, brightness, rfl, hdot, rfl⟩ := exists_of_mem_setPixelEvents he
      exact .inl ⟨x, y, brightness, by rw [hname], hdot, rfl⟩
    split at he
    next => exact .inr (.inl (eq_of_mem_clearEvents he))
    split at he
    next hname =>
      obtain ⟨text, rfl, he⟩ := exists_of_mem_scrollEvents he
      exact .inr (.inr (.inl ⟨text, by rw [hname], he⟩))
    split at he
    next => exact .inr (.inr (.inr (exists_of_mem_sleepEvents he)))
    next => exact absurd he List.not_mem_nil

/-- A call that sends a command sets a dot with the numbers given, blanks the display, or scrolls
    a text. -/
theorem cases_of_mem_commands {frameMs : UInt64} {d : Deed} {c : Command}
    (hc : c ∈ d.commands frameMs) :
    (∃ x y brightness, d = .called "set_pixel" [.int x, .int y, .int brightness] ∧
      IsDot x y brightness ∧ c = .dot x y brightness) ∨ c = .clearDisplay ∨
    ∃ text, d = .called "scroll" [.str text] ∧
      c ∈ Event.commands ((Scroll.film text.toList frameMs).map Stroke.event) := by
  obtain ⟨e, he, hcommand⟩ := List.mem_filterMap.1 hc
  rcases cases_of_mem_events he with ⟨x, y, brightness, hd, hdot, rfl⟩ | rfl | ⟨text, hd, he⟩ |
    ⟨ms, rfl⟩
  · cases hcommand
    exact .inl ⟨x, y, brightness, hd, hdot, rfl⟩
  · cases hcommand
    exact .inr (.inl rfl)
  · exact .inr (.inr ⟨text, hd, List.mem_filterMap.2 ⟨e, he, hcommand⟩⟩)
  · cases hcommand

/-- Whatever a script calls, the commands sent are in range. -/
theorem inRange {frameMs : UInt64} {d : Deed} {c : Command} (hc : c ∈ d.commands frameMs) :
    c.InRange := by
  rcases cases_of_mem_commands hc with ⟨x, y, brightness, -, hdot, rfl⟩ | rfl | ⟨text, -, hc⟩
  · exact hdot.inRange
  · exact trivial
  · exact Scroll.inRange_of_film (fun _ hs => hs) hc

end Deed

/-! ## The board -/

/-- What a call can depend on. -/
structure Host.Setting where
  microphone : Microphone
  frameMs : UInt64
  sensors : Sensors

/-- The setting of a host. -/
def Host.setting (h : Host) : Setting := ⟨h.microphone, h.frameMs, h.sensors⟩

namespace Host

theorem emitAll_setting (h : Host) (events : List Event) :
    (h.emitAll events).setting = h.setting := by
  have hsent := h.emitAll_sent events
  rw [setting, hsent.microphone, hsent.frameMs, emitAll_sensors]
  rfl

theorem inDisplay_iff (n : Int64) : inDisplay n = true ↔ 0 ≤ n.toInt ∧ n.toInt < 5 := by
  rw [inDisplay, Bool.and_eq_true, decide_eq_true_eq, decide_eq_true_eq, Int64.le_iff_toInt_le,
    Int64.lt_iff_toInt_lt]
  rfl

/-- The board sets exactly the dots that there are. -/
theorem setPixel_of_isDot {x y brightness : Int64} (hdot : IsDot x y brightness) (h : Host) :
    h.setPixel x y brightness = .ok (h.emit (.command (.dot x y brightness))) := by
  obtain ⟨hx, hy, hlow, hhigh⟩ := hdot
  rw [setPixel, (inDisplay_iff x).2 hx, (inDisplay_iff y).2 hy, if_neg (by decide), if_neg]
  · rfl
  · have hlow' : (0 : Int64) ≤ brightness := Int64.le_iff_toInt_le.2 hlow
    have hhigh' : brightness ≤ 9 := Int64.le_iff_toInt_le.2 hhigh
    simp [hlow', hhigh']

/-- The board refuses every dot that there is not, for the same reason on every host. -/
theorem setPixel_of_not_isDot {x y brightness : Int64} (hdot : ¬ IsDot x y brightness) :
    ∃ e, ∀ h : Host, h.setPixel x y brightness = .error e := by
  by_cases hdisplay : (!inDisplay x || !inDisplay y) = true
  · exact ⟨_, fun h => if_pos hdisplay⟩
  · refine ⟨_, fun h => (if_neg hdisplay).trans (if_pos ?_)⟩
    -- The column and the row are right, so the brightness is not.
    simp only [Bool.or_eq_true, Bool.not_eq_true', not_or, Bool.not_eq_false, inDisplay_iff]
      at hdisplay
    simp only [Bool.not_eq_true', Bool.and_eq_false_iff, decide_eq_false_iff_not,
      Int64.le_iff_toInt_le]
    exact not_and_or.1 fun hbrightness => hdot ⟨hdisplay.1, hdisplay.2, hbrightness⟩

end Host

namespace Devices

/-- A native function that acts on a host as its name and the arguments say, and whose answer and
    whose effect on the sensors depend on the setting alone. -/
def Acts (name : String) (f : Native Host) : Prop :=
  ∀ args (s : Host.Setting), ∃ answer sensors, ∀ h : Host, h.setting = s →
    (f args).run h = .ok (answer,
      { h.emitAll ((Deed.called name args).events s.frameMs) with sensors })

/-- What a call sends to the display. -/
theorem Acts.sent {name : String} {f : Native Host} (hf : Acts name f) {args : List Value}
    {h h' : Host} {r : Except ScriptError Value} (hrun : (f args).run h = .ok (r, h')) :
    h.Sent ((Deed.called name args).commands h.frameMs) h' := by
  obtain ⟨answer, sensors, hacts⟩ := hf args h.setting
  cases (hacts h rfl).symm.trans hrun
  have hsent := h.emitAll_sent ((Deed.called name args).events h.frameMs)
  exact ⟨hsent.microphone, hsent.frameMs, hsent.commands, hsent.leds⟩

/-! ## The functions one by one -/

/-- With a wrong number of arguments a function ends at its first check, and the host stays. -/
theorem checkArity_run_of_ne {α : Type} {expected : Nat} {args : List Value}
    (hlen : args.length ≠ expected) (f : Unit → Call Host α) (h : Host) :
    (checkArity expected args >>= f).run h =
      .ok (.error (.argumentCount expected args.length), h) := by
  rw [checkArity, if_neg hlen]
  rfl

/-- A function that checks the number of its arguments first acts, if it does when the number is
    right. -/
theorem Acts.of_checked {name : String} {f : Native Host}
    (hchecked : ∀ args h, args.length ≠ Deed.arity name →
      (f args).run h = .ok (.error (.argumentCount (Deed.arity name) args.length), h))
    (hrun : ∀ args (s : Host.Setting), args.length = Deed.arity name →
      ∃ answer sensors, ∀ h : Host, h.setting = s → (f args).run h = .ok (answer,
        { h.emitAll ((Deed.called name args).events s.frameMs) with sensors })) :
    Acts name f := by
  intro args s
  by_cases hlen : args.length = Deed.arity name
  · exact hrun args s hlen
  · refine ⟨.error (.argumentCount (Deed.arity name) args.length), s.sensors, ?_⟩
    rintro h rfl
    rw [hchecked args h hlen, Deed.events_of_length_ne hlen]
    rfl

/-- A function that leaves the sensors alone. -/
theorem Acts.of_events {name : String} {f : Native Host}
    (hchecked : ∀ args h, args.length ≠ Deed.arity name →
      (f args).run h = .ok (.error (.argumentCount (Deed.arity name) args.length), h))
    (hrun : ∀ args frameMs, args.length = Deed.arity name →
      ∃ answer, ∀ h : Host, h.frameMs = frameMs →
        (f args).run h = .ok (answer, h.emitAll ((Deed.called name args).events frameMs))) :
    Acts name f := by
  refine .of_checked hchecked fun args s hlen => ?_
  obtain ⟨answer, hrun⟩ := hrun args s.frameMs hlen
  refine ⟨answer, s.sensors, ?_⟩
  rintro h rfl
  rw [hrun h rfl]
  exact congrArg (fun sensors => Except.ok (answer, { h.emitAll _ with sensors }))
    (h.emitAll_sensors _)

/-- With three integers, setting a dot is left to the board. -/
theorem setPixel_run (x y brightness : Int64) (h : Host) :
    (setPixel [.int x, .int y, .int brightness]).run h =
      match h.setPixel x y brightness with
      | .ok h' => .ok (.ok .none, h')
      | .error e => .ok (.error e, h) := by
  change (match h.setPixel x y brightness with
    | .ok h' => (do set h'; pure Value.none : Call Host Value)
    | .error e => throw e).run h = _
  cases h.setPixel x y brightness with
  | ok h' => rfl
  | error e => rfl

/-- Only three integers that are a dot bring anything about. -/
theorem setPixel_acts : Acts "set_pixel" setPixel := by
  refine .of_events (fun _ h hlen => checkArity_run_of_ne hlen _ h) fun args frameMs hlen => ?_
  obtain ⟨a, b, c, rfl⟩ := List.length_eq_three.1 hlen
  -- The first argument that is no integer refuses the call before anything is done.
  cases a with
  | int x =>
    cases b with
    | int y =>
      cases c with
      | int brightness =>
        by_cases hdot : IsDot x y brightness
        · refine ⟨.ok .none, fun h _ => ?_⟩
          rw [setPixel_run, h.setPixel_of_isDot hdot, Deed.events_setPixel, if_pos hdot]
          rfl
        · obtain ⟨e, he⟩ := Host.setPixel_of_not_isDot hdot
          refine ⟨.error e, fun h _ => ?_⟩
          rw [setPixel_run, he, Deed.events_setPixel, if_neg hdot]
          rfl
      | _ => exact ⟨_, fun h _ => rfl⟩
    | _ => exact ⟨_, fun h _ => rfl⟩
  | _ => exact ⟨_, fun h _ => rfl⟩

theorem clearDisplay_acts : Acts "clear" clearDisplay := by
  refine .of_events (fun _ h hlen => checkArity_run_of_ne hlen _ h) fun args frameMs hlen => ?_
  obtain rfl := List.length_eq_zero_iff.1 hlen
  exact ⟨_, fun h _ => rfl⟩

/-- Only a text brings anything about. -/
theorem scroll_acts : Acts "scroll" scroll := by
  refine .of_events (fun _ h hlen => checkArity_run_of_ne hlen _ h) fun args frameMs hlen => ?_
  obtain ⟨a, rfl⟩ := List.length_eq_one_iff.1 hlen
  cases a with
  | str text =>
    refine ⟨.ok .none, ?_⟩
    rintro h rfl
    rfl
  | _ => exact ⟨_, fun h _ => rfl⟩

theorem sleep_acts : Acts "sleep" sleep := by
  refine .of_events (fun _ h hlen => checkArity_run_of_ne hlen _ h) fun args frameMs hlen => ?_
  obtain ⟨a, rfl⟩ := List.length_eq_one_iff.1 hlen
  cases a with
  | int ms => exact ⟨_, fun h _ => rfl⟩
  | _ => exact ⟨_, fun h _ => rfl⟩

/-- What is asked of a host depends on its setting alone, and changes nothing but the sensors. -/
def Asks (answer : Host → Int32 × Host) : Prop :=
  ∀ s : Host.Setting, ∃ n sensors, ∀ h : Host, h.setting = s → answer h = (n, { h with sensors })

/-- A question about the board changes its sensors only. -/
theorem read_asks (key : Key) : Asks (Host.read · key) := by
  intro s
  refine ⟨(s.sensors.read key).1, (s.sensors.read key).2, ?_⟩
  rintro h rfl
  rfl

/-- So does the question for the sound level, whatever the microphone is. -/
theorem soundLevel_asks : Asks Host.soundLevel := by
  rintro ⟨microphone, frameMs, sensors⟩
  cases microphone with
  | live =>
    obtain ⟨n, sensors', hread⟩ := read_asks .micVol ⟨.live, frameMs, sensors⟩
    refine ⟨n, sensors', fun h hs => ?_⟩
    have hlive : h.microphone = .live := congrArg (·.microphone) hs
    rw [← hread h hs, Host.soundLevel, hlive]
  | stub =>
    refine ⟨0, sensors, fun h hs => ?_⟩
    have hstub : h.microphone = .stub := congrArg (·.microphone) hs
    have hsensors : h.sensors = sensors := congrArg (·.sensors) hs
    subst hsensors
    rw [Host.soundLevel]
    split
    next hlive => cases hlive.symm.trans hstub
    next => rfl

/-- A function without arguments that asks the host, and answers with what it is told. -/
theorem Acts.of_asks {name : String} {f : Native Host} {answer : Host → Int32 × Host}
    (hasks : Asks answer) (value : Int32 → Value) (harity : Deed.arity name = 0)
    (hevents : ∀ frameMs, (Deed.called name []).events frameMs = [])
    (hchecked : ∀ args h, args.length ≠ 0 →
      (f args).run h = .ok (.error (.argumentCount 0 args.length), h))
    (hrun : ∀ h, (f []).run h = .ok (.ok (value (answer h).1), (answer h).2)) : Acts name f := by
  refine .of_checked (harity ▸ hchecked) fun args s hlen => ?_
  obtain rfl := List.length_eq_zero_iff.1 (hlen.trans harity)
  obtain ⟨n, sensors, hasks⟩ := hasks s
  refine ⟨.ok (value n), sensors, fun h hs => ?_⟩
  rw [hrun, hasks h hs, hevents]
  rfl

theorem reading_acts {name : String} {answer : Host → Int32 × Host} (hasks : Asks answer)
    (harity : Deed.arity name = 0) (hevents : ∀ frameMs, (Deed.called name []).events frameMs = []) :
    Acts name (reading answer) :=
  .of_asks hasks (fun n => .int (Int64.ofInt n.toInt)) harity hevents
    (fun _ h hlen => checkArity_run_of_ne hlen _ h) fun _ => rfl

theorem flag_acts {name : String} (key : Key) (harity : Deed.arity name = 0)
    (hevents : ∀ frameMs, (Deed.called name []).events frameMs = []) : Acts name (flag key) :=
  .of_asks (read_asks key) (fun n => .bool (n != 0)) harity hevents
    (fun _ h hlen => checkArity_run_of_ne hlen _ h) fun _ => rfl

/-! ## The modules -/

/-- All functions of a module act. -/
def AllAct (m : Module Host) : Prop := ∀ a ∈ m.functions, Acts a.1 a.2

theorem allAct_empty (name : String) : AllAct (.empty name) :=
  fun _ ha => absurd ha List.not_mem_nil

theorem AllAct.function {m : Module Host} (hm : AllAct m) {name : String} {f : Native Host}
    (hf : Acts name f) : AllAct (m.function name f) :=
  Module.forall_mem_function hm hf

theorem button_acts (which : Button) : AllAct (button which) :=
  (allAct_empty _).function (flag_acts _ rfl fun _ => rfl)
    |>.function (flag_acts _ rfl fun _ => rfl)

/-- All functions of the board act. -/
theorem all_acts : ∀ m ∈ all, AllAct m := by
  simp only [all, List.forall_mem_cons]
  -- The display, the microphone, the accelerometer, the buttons, and `microbit`, whose imports
  -- are no functions of its own.
  refine ⟨?_, ?_, ?_, button_acts .a, button_acts .b, ?_, fun _ h => absurd h List.not_mem_nil⟩
  · exact (allAct_empty _).function setPixel_acts
      |>.function clearDisplay_acts
      |>.function scroll_acts
  · exact (allAct_empty _).function (reading_acts soundLevel_asks rfl fun _ => rfl)
  · exact (allAct_empty _).function (reading_acts (read_asks .accX) rfl fun _ => rfl)
      |>.function (reading_acts (read_asks .accY) rfl fun _ => rfl)
      |>.function (reading_acts (read_asks .accZ) rfl fun _ => rfl)
  · exact (allAct_empty "microbit").function sleep_acts

end Devices

end LedBoard
