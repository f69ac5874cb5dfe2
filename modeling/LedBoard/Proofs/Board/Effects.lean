import LedBoard.Proofs.Board.Calls
import LedBoard.Proofs.Board.Refusal

/-!
# Calls do all or nothing

A call of a function of the board, or of the console, never crashes. Either it is refused, with
the error the rule names, and then the host is as it was; or it has the one effect the function is
there for, and no other (`Entry.Does`): most functions only tell something.

* `Keeps`: a native function keeps to its entry, in what it refuses and in what it does;
* `all_keep`, `console_keep`: the functions of the board and of the console do;
* `calls_all_or_nothing`: the statements together.
-/

namespace LedBoard.Devices

/-- The sensors when the presses of a button have been looked at. -/
def Button.look : Button → Sensors → Sensors
  | .a, s => { s with seenA := s.snapshot.aPressCount }
  | .b, s => { s with seenB := s.snapshot.bPressCount }

/-- The function only tells something. -/
def Entry.tells : Entry → Bool
  | soundLevel | accX | accY | accZ | pressed _ | version => true
  | _ => false

/-- What a call that is not refused does to the host `h`. -/
inductive Entry.Does (h : Host) : Entry → List Value → Host → Prop
  /-- The dot has the numbers given, none of which is cut. -/
  | setPixel {x y brightness : Int64} {column row v : UInt8} (hx : (column.toNat : Int) = x.toInt)
      (hy : (row.toNat : Int) = y.toInt) (hv : (v.toNat : Int) = brightness.toInt) :
      Does h .setPixel [.int x, .int y, .int brightness]
        (h.emit (.command (.setPixel column row v)))
  | clearDisplay : Does h .clearDisplay [] (h.emit (.command .clearDisplay))
  | scroll (text : String) :
      Does h .scroll [.str text] (h.emitAll ((Scroll.film text.toList h.frameMs).map Stroke.event))
  /-- A negative time is none. -/
  | sleep {n : Int64} {ms : UInt64} (hms : (ms.toNat : Int) = max 0 n.toInt) :
      Does h .sleep [.int n] (h.emit (.pause ms))
  /-- The console is cleared if there is one. -/
  | clearConsole : Does h .clearConsole [] (if h.hasConsole then h.emit .consoleCleared else h)
  | wasPressed (which : Button) :
      Does h (.wasPressed which) [] { h with sensors := which.look h.sensors }
  | tells {g : Entry} (hg : g.tells = true) : Does h g [] h

/-- The native function refuses what the entry refuses, and then does nothing, and otherwise does
    what the entry does. -/
structure Keeps (g : Entry) (f : Native Host) : Prop where
  refused : ∀ args e h, g.refusal? args = some e → (f args).run h = .ok (.error e, h)
  done : ∀ args h, g.refusal? args = none →
    ∃ v h', (f args).run h = .ok (.ok v, h') ∧ g.Does h args h'

namespace Keeps

variable {g : Entry} {f : Native Host}

/-- A function that checks the number of its arguments first keeps to its entry if it does when
    the number is right. -/
theorem of_checked
    (hchecked : ∀ args h, args.length ≠ g.kinds.length →
      (f args).run h = .ok (.error (.argumentCount g.kinds.length args.length), h))
    (hrefused : ∀ args e h, args.length = g.kinds.length → g.refusal? args = some e →
      (f args).run h = .ok (.error e, h))
    (hdone : ∀ args h, args.length = g.kinds.length → g.refusal? args = none →
      ∃ v h', (f args).run h = .ok (.ok v, h') ∧ g.Does h args h') : Keeps g f where
  refused args e h he := by
    by_cases hlength : args.length = g.kinds.length
    · exact hrefused args e h hlength he
    · cases (if_neg hlength).symm.trans he
      exact hchecked args h hlength
  done args h hnone := by
    by_cases hlength : args.length = g.kinds.length
    · exact hdone args h hlength hnone
    · cases (if_neg hlength).symm.trans hnone

/-- A function without arguments. -/
theorem of_none (hkinds : g.kinds = [])
    (hchecked : ∀ args h, args.length ≠ 0 →
      (f args).run h = .ok (.error (.argumentCount 0 args.length), h))
    (hdone : ∀ h, ∃ v h', (f []).run h = .ok (.ok v, h') ∧ g.Does h [] h') : Keeps g f := by
  have hlength : g.kinds.length = 0 := by rw [hkinds]; rfl
  refine .of_checked (by rwa [hlength]) (fun args e h hargs he => ?_) fun args h hargs _ => ?_
  · obtain rfl := List.length_eq_zero_iff.1 (hargs.trans hlength)
    have hnone : g.refusal? [] = none := by
      rw [Entry.refusal?, if_pos hargs, hkinds]
      cases g <;> rfl
    cases hnone.symm.trans he
  · obtain rfl := List.length_eq_zero_iff.1 (hargs.trans hlength)
    exact hdone h

/-- A function of one argument. -/
theorem of_one {k : ArgumentKind} (hkinds : g.kinds = [k])
    (hobjection : ∀ v, g.objection? [v] = none)
    (hchecked : ∀ args h, args.length ≠ 1 →
      (f args).run h = .ok (.error (.argumentCount 1 args.length), h))
    (hmisfit : ∀ v h, k.fits v = false →
      (f [v]).run h = .ok (.error (.argumentType 0 k v.typeName), h))
    (hdone : ∀ v h, k.fits v = true →
      ∃ w h', (f [v]).run h = .ok (.ok w, h') ∧ g.Does h [v] h') : Keeps g f := by
  have hlength : g.kinds.length = 1 := by rw [hkinds]; rfl
  -- One argument is refused just if it does not fit, as nothing else is objected to.
  -- One argument is refused just if it does not fit, as nothing else is objected to.
  have hrefusal (v : Value) : g.refusal? [v] =
      if k.fits v then none else some (.argumentType 0 k v.typeName) := by
    rw [Entry.refusal?, if_pos (show [v].length = g.kinds.length from hlength.symm), hkinds,
      hobjection]
    cases hfits : k.fits v <;> simp [misfit?, hfits]
  refine .of_checked (by rwa [hlength]) (fun args e h hargs he => ?_) fun args h hargs hnone => ?_
  · obtain ⟨v, rfl⟩ := List.length_eq_one_iff.1 (hargs.trans hlength)
    rw [hrefusal] at he
    split at he
    next => cases he
    next hfits =>
      cases he
      exact hmisfit v h (Bool.eq_false_iff.2 hfits)
  · obtain ⟨v, rfl⟩ := List.length_eq_one_iff.1 (hargs.trans hlength)
    rw [hrefusal] at hnone
    split at hnone
    next hfits => exact hdone v h hfits
    next => cases hnone

end Keeps

/-! ## The functions one by one -/

/-- The check of the board for the place of a dot, told of the numbers. -/
theorem outside_iff (x y : Int64) :
    (!Host.inDisplay x || !Host.inDisplay y) = true ↔ ¬ (OnDisplay x ∧ OnDisplay y) := by
  rw [← Bool.not_and, Bool.not_eq_true', ← Bool.not_eq_true, Bool.and_eq_true, Host.inDisplay_iff,
    Host.inDisplay_iff]
  rfl

/-- The check of the board for the brightness of a dot, told of the number. -/
theorem tooBright_iff (brightness : Int64) :
    (!(0 ≤ brightness && brightness ≤ 9)) = true ↔
      ¬ (0 ≤ brightness.toInt ∧ brightness.toInt ≤ 9) := by
  rw [Bool.not_eq_true', ← Bool.not_eq_true, Bool.and_eq_true, decide_eq_true_eq,
    decide_eq_true_eq, Int64.le_iff_toInt_le, Int64.le_iff_toInt_le]
  rfl

section

variable {x y brightness : Int64}

/-- The board has against a dot what the rule says, the coordinates first. -/
theorem setPixel_of_objection {message : String}
    (hmessage : Entry.objection? .setPixel [.int x, .int y, .int brightness] = some message)
    (h : Host) : h.setPixel x y brightness = .error (.value message) := by
  rw [Entry.objection?] at hmessage
  split at hmessage
  next hout =>
    cases hmessage
    exact if_pos ((outside_iff x y).2 hout)
  next hin =>
    split at hmessage
    next hbright =>
      cases hmessage
      exact (if_neg (mt (outside_iff x y).1 hin)).trans
        (if_pos ((tooBright_iff brightness).2 hbright))
    next => cases hmessage

/-- Where nothing is objected to a dot, there is such a dot. -/
theorem isDot_of_objection
    (hnone : Entry.objection? .setPixel [.int x, .int y, .int brightness] = none) :
    IsDot x y brightness := by
  rw [Entry.objection?] at hnone
  split at hnone
  next => cases hnone
  next hin =>
    split at hnone
    next => cases hnone
    next hdim =>
      obtain ⟨hx, hy⟩ := not_not.1 hin
      exact ⟨hx, hy, not_not.1 hdim⟩

end

/-- A dot is refused for its place first, and for its brightness only if its place is right. -/
theorem setPixel_keeps : Keeps .setPixel setPixel := by
  refine .of_checked (fun _ h hlength => checkArity_run_of_ne hlength _ h)
    (fun args e h hlength he => ?_) fun args h hlength hnone => ?_
  · obtain ⟨a, b, c, rfl⟩ := List.length_eq_three.1 hlength
    -- Of the arguments that are no integers, the first one decides.
    cases a with
    | int x =>
      cases b with
      | int y =>
        cases c with
        | int brightness =>
          obtain ⟨message, hmessage, rfl⟩ := Option.map_eq_some_iff.1 he
          rw [setPixel_run, setPixel_of_objection hmessage]
        | _ => cases he; rfl
      | _ => cases he; rfl
    | _ => cases he; rfl
  · obtain ⟨a, b, c, rfl⟩ := List.length_eq_three.1 hlength
    -- Nothing is against the call, so the arguments are integers, and they make a dot.
    cases a with
    | int x =>
      cases b with
      | int y =>
        cases c with
        | int brightness =>
          have hdot := isDot_of_objection (Option.map_eq_none_iff.1 hnone)
          obtain ⟨column, row, v, hcommand, hx, hy, hv⟩ := hdot.toNat_eq
          refine ⟨.none, _, ?_, .setPixel hx hy hv⟩
          rw [setPixel_run, h.setPixel_of_isDot hdot, hcommand]
        | _ => cases hnone
      | _ => cases hnone
    | _ => cases hnone

theorem clearDisplay_keeps : Keeps .clearDisplay clearDisplay :=
  .of_none rfl (fun _ h hlength => checkArity_run_of_ne hlength _ h) fun _ =>
    ⟨_, _, rfl, .clearDisplay⟩

/-- Every text is scrolled. -/
theorem scroll_keeps : Keeps .scroll scroll := by
  refine .of_one rfl (fun v => by cases v <;> rfl)
    (fun _ h hlength => checkArity_run_of_ne hlength _ h) (fun v h hfits => ?_)
    fun v h hfits => ?_
  · cases v with
    | str => cases hfits
    | _ => rfl
  · cases v with
    | str text => exact ⟨_, _, rfl, .scroll text⟩
    | _ => cases hfits

/-- The time waited is the number given, if it is not negative. -/
theorem toNat_ms (n : Int64) :
    ((UInt64.ofNat n.toNatClampNeg).toNat : Int) = max 0 n.toInt := by
  have hlt := n.toInt_lt
  have hsmall : n.toInt.toNat < UInt64.size := by
    rw [UInt64.size]
    omega
  rw [← Int64.toNat_toInt, UInt64.toNat_ofNat_of_lt' hsmall, Int.toNat_eq_max, Int.max_comm]

/-- A pause is as long as the number says, and has no length if the number is negative. -/
theorem sleep_keeps : Keeps .sleep sleep := by
  refine .of_one rfl (fun v => by cases v <;> rfl)
    (fun _ h hlength => checkArity_run_of_ne hlength _ h) (fun v h hfits => ?_)
    fun v h hfits => ?_
  · cases v with
    | int => cases hfits
    | _ => rfl
  · cases v with
    | int n => exact ⟨_, _, rfl, .sleep (toNat_ms n)⟩
    | _ => cases hfits

/-- A function that asks the host something that changes nothing. -/
theorem reading_keeps {g : Entry} (hkinds : g.kinds = []) (hg : g.tells = true)
    {answer : Host → Int32 × Host} (hanswer : ∀ h, (answer h).2 = h) :
    Keeps g (reading answer) := by
  refine .of_none hkinds (fun _ h hlength => checkArity_run_of_ne hlength _ h) fun h =>
    ⟨_, (answer h).2, rfl, ?_⟩
  rw [hanswer]
  exact .tells hg

theorem soundLevel_same (h : Host) : h.soundLevel.2 = h := by
  rw [Host.soundLevel]
  split <;> rfl

theorem pressed_keeps (which : Button) : Keeps (.pressed which) (flag which.pressedKey) := by
  refine .of_none rfl (fun _ h hlength => checkArity_run_of_ne hlength _ h) fun h =>
    ⟨_, (h.read which.pressedKey).2, rfl, ?_⟩
  cases which <;> exact .tells rfl

/-- Of the questions about the board this one alone changes it: the presses have been looked at. -/
theorem wasPressed_keeps (which : Button) :
    Keeps (.wasPressed which) (flag which.wasPressedKey) := by
  refine .of_none rfl (fun _ h hlength => checkArity_run_of_ne hlength _ h) fun h =>
    ⟨_, (h.read which.wasPressedKey).2, rfl, ?_⟩
  cases which <;> exact .wasPressed _

theorem clearConsole_keeps : Keeps .clearConsole clearConsole :=
  .of_none rfl (fun _ h hlength => checkArity_run_of_ne hlength _ h) fun _ =>
    ⟨_, _, rfl, .clearConsole⟩

theorem tellVersion_keeps : Keeps .version tellVersion :=
  .of_none rfl (fun _ h hlength => checkArity_run_of_ne hlength _ h) fun _ =>
    ⟨_, _, rfl, .tells rfl⟩

/-! ## The modules -/

/-- All functions of a module keep to the entries under their names. -/
def AllKeep (m : Module Host) : Prop :=
  ∀ a ∈ m.functions, ∃ g : Entry, g.home = (m.name, a.1) ∧ Keeps g a.2

theorem allKeep_empty (name : String) : AllKeep (.empty name) :=
  fun _ ha => absurd ha List.not_mem_nil

/-- The functions of a module keep to their entries if the one added last does and those before do.
    -/
theorem AllKeep.function {m : Module Host} (hm : AllKeep m) {g : Entry} {name : String}
    {f : Native Host} (hf : Keeps g f) (hhome : g.home = (m.name, name)) :
    AllKeep (m.function name f) :=
  Module.forall_mem_function hm ⟨g, hhome, hf⟩

theorem button_keep (which : Button) : AllKeep (button which) :=
  (allKeep_empty _).function (pressed_keeps which) rfl |>.function (wasPressed_keeps which) rfl

/-- All functions of the modules of the board keep to their entries. -/
theorem all_keep : ∀ m ∈ all, AllKeep m := by
  simp only [all, List.forall_mem_cons]
  refine ⟨?_, ?_, ?_, button_keep .a, button_keep .b, ?_, fun _ h => absurd h List.not_mem_nil⟩
  · exact (allKeep_empty "display").function setPixel_keeps rfl
      |>.function clearDisplay_keeps rfl
      |>.function scroll_keeps rfl
  · exact (allKeep_empty "microphone").function (reading_keeps (g := .soundLevel) rfl rfl
      soundLevel_same) rfl
  · exact (allKeep_empty "accelerometer").function
        (reading_keeps (g := .accX) rfl rfl fun _ => rfl) rfl
      |>.function (reading_keeps (g := .accY) rfl rfl fun _ => rfl) rfl
      |>.function (reading_keeps (g := .accZ) rfl rfl fun _ => rfl) rfl
  · exact (allKeep_empty "microbit").function sleep_keeps rfl

theorem console_keep : AllKeep console :=
  (allKeep_empty "console").function clearConsole_keeps rfl |>.function tellVersion_keeps rfl

/-- Every function of the board and of the console is an entry, known by its module and its name,
    and a call of it, with any arguments on any host, does not crash. It fails if and only if the
    rule refuses it, with the error the rule names, and then the host is as it was; and what it
    does if it does not fail is what the entry does. -/
theorem calls_all_or_nothing :
    Function.Injective Entry.home ∧ console.functions = consoleFunctions ∧
    ∀ m ∈ all ++ [console], ∀ a ∈ m.functions, ∃ g : Entry, g.home = (m.name, a.1) ∧
      ∀ args h,
        (∃ r h', (a.2 args).run h = .ok (r, h')) ∧
        (∀ e h', (a.2 args).run h = .ok (.error e, h') ↔ g.Refuses args e ∧ h' = h) ∧
        ∀ v h', (a.2 args).run h = .ok (.ok v, h') → g.Does h args h' := by
  -- The module of the console lists its functions in the order in which they are bound.
  refine ⟨Entry.home_injective, rfl, fun m hm a ha => ?_⟩
  have hkeep : AllKeep m := by
    rcases List.mem_append.1 hm with hm | hm
    · exact all_keep m hm
    · rw [List.mem_singleton.1 hm]
      exact console_keep
  obtain ⟨g, hhome, hg⟩ := hkeep a ha
  refine ⟨g, hhome, fun args h => ?_⟩
  cases hrefusal : g.refusal? args with
  | some e =>
    have hrun := hg.refused args e h hrefusal
    refine ⟨⟨_, _, hrun⟩, fun e' h' => ⟨fun hrun' => ?_, ?_⟩, fun v h' hrun' => ?_⟩
    · cases hrun.symm.trans hrun'
      exact ⟨refusal?_eq_some_iff.1 hrefusal, rfl⟩
    · rintro ⟨hrefuses, rfl⟩
      cases hrefusal.symm.trans (refusal?_eq_some_iff.2 hrefuses)
      exact hrun
    · cases hrun.symm.trans hrun'
  | none =>
    obtain ⟨v, h', hrun, hdoes⟩ := hg.done args h hrefusal
    refine ⟨⟨_, _, hrun⟩, fun e' h' => ⟨fun hrun' => ?_, ?_⟩, fun v h' hrun' => ?_⟩
    · cases hrun.symm.trans hrun'
    · rintro ⟨hrefuses, -⟩
      cases hrefusal.symm.trans (refusal?_eq_some_iff.2 hrefuses)
    · cases hrun.symm.trans hrun'
      exact hdoes

end LedBoard.Devices
