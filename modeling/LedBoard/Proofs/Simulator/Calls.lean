import LedBoard.Proofs.Engine.Watch
import LedBoard.Simulator

/-!
# How a program calls its interpreter

The calls of the run of a program, for every engine, by what is added to the log of the engine
under watch: the instance is created, given the modules of the board, runs the program once and
is cleared; whatever fails is the end of it.

* `run_logs`: the calls of a run;
* `run_sim`: the run without the watch does the same.
-/

namespace LedBoard.Simulator

/-- The calls that set up the interpreter of a program, which is the number `n`. -/
def setupCalls (config : Config) (n : Nat) : List (Nat × Plan.Call) :=
  [(n, .create config.enableOsAccess true),
    (n, .module "display" ["clear", "scroll", "set_pixel"] []),
    (n, .module "microphone" ["sound_level"] []),
    (n, .module "accelerometer" ["get_x", "get_y", "get_z"] []),
    (n, .module "button_a" ["is_pressed", "was_pressed"] []),
    (n, .module "button_b" ["is_pressed", "was_pressed"] []),
    (n, .module "microbit" ["sleep"]
      ["display", "accelerometer", "microphone", "button_a", "button_b"])]

/-- What the exchanges of a program are, given how its run ended. -/
def Ran (config : Config) (n : Nat) (code : String) (r : Except OpenError Outcome)
    (xs : List Exchange) : Prop :=
  (∃ setup completion, InOrder (setupCalls config n) (.ok ()) setup ∧ r = .ok (outcome completion) ∧
    xs = setup ++ [⟨n, .execute code, .ended completion⟩, ⟨n, .clearException, .done⟩]) ∨
  ∃ cause error, InOrder (setupCalls config n) (.error cause) xs ∧ r = .error error ∧
    error = .live cause ∧ error.status = 1

variable {κ ι : Type} (e : Engine Host κ ι)

/-- The run of a program asks for its calls in order: an instance, the modules of the board, the run
    of the source and the clearing behind it. If it fails before the run, the last call is the one
    that failed. -/
theorem run_logs (config : Config) (code : String) (n : Nat) :
    Logs n (run e.watched config code) fun r _ xs => Ran config n code r xs := by
  -- Call after call is put down; the run ends where an instance or a module is refused.
  -- Call after call is put down; the run ends where an instance or a module is refused.
  refine (Logs.create e _).bind ?_
  rintro (cause | i) _ _ ⟨rfl, hi, rfl⟩
  · exact .pure (.inr ⟨cause, _, .failed _ _ _ _, rfl, rfl, rfl⟩)
  have hi := hi i rfl
  refine (Logs.registerModules e i Devices.all).bind ?_
  rintro ⟨registered, i'⟩ _ setup ⟨rfl, hi', hsetup⟩
  rw [hi] at hi' hsetup
  cases registered with
  | error cause =>
    refine (Logs.drop e i').bind ?_
    rintro _ _ _ ⟨rfl, rfl⟩
    refine .pure (.inr ⟨cause, _, ?_, rfl, rfl, rfl⟩)
    rw [List.nil_append, List.append_nil]
    exact .done hsetup
  | ok =>
    refine (Logs.onHost _).bind ?_
    rintro _ m _ ⟨rfl, rfl⟩
    refine (Logs.ask i' (.execute code) .ended (e.execute · code)).bind ?_
    rintro ⟨completion, i''⟩ m _ ⟨rfl, hi'', rfl⟩
    refine (Logs.onHost _).bind ?_
    rintro _ m _ ⟨rfl, rfl⟩
    refine (Logs.clearException e i'').bind ?_
    rintro i₃ m _ ⟨rfl, -, rfl⟩
    refine (Logs.drop e i₃).bind ?_
    rintro _ m _ ⟨rfl, rfl⟩
    refine .pure (.inl ⟨_, completion, .done hsetup, rfl, ?_⟩)
    rw [show i''.number = n from hi''.trans hi', show i'.number = n from hi']
    rfl

/-- The log of the calls changes nothing about the run of a program. -/
theorem run_sim (config : Config) (code : String) :
    Run.Sim Watch.Same Eq (run e.watched config code) (run e config code) := by
  refine (e.create_sim _).bind ?_
  rintro _ _ (cause | hi)
  · exact .pure rfl
  refine (e.registerModules_sim hi _).bind ?_
  rintro ⟨registered, i⟩ ⟨_, j⟩ ⟨rfl, hi'⟩
  cases registered with
  | error cause => exact (e.drop_sim hi').bind fun _ _ _ => .pure rfl
  | ok =>
    refine (Watch.onHost_sim _).bind fun _ _ _ => ?_
    refine (Watched.ask_sim hi' _ _ (e.execute · code)).bind ?_
    rintro ⟨completion, i⟩ ⟨_, j⟩ ⟨rfl, hi''⟩
    refine (Watch.onHost_sim _).bind fun _ _ _ => ?_
    refine (e.clearException_sim hi'').bind fun _ _ hi₃ => ?_
    exact (e.drop_sim hi₃).bind fun _ _ _ => .pure rfl

end LedBoard.Simulator
