import LedBoard.Proofs.Script.Journal

/-!
# What a run leaves alone

A script binds names, and its run may leave an exception behind. Everything else that an
interpreter has stays as it is: the modules that can be imported, the receiver of the prints,
and the permission to reach the operating system.

* `run_frame`, `runAll_frame`: the step for a statement, and a program by induction;
* `input_frame`: the run of a source in a mode.
-/

namespace LedBoard

/-- Whatever a run returns is such. -/
def Run.Returns {σ α : Type} (P : α → Prop) (m : Run σ α) : Prop :=
  ∀ s x s', m s = .ok (x, s') → P x

namespace Run.Returns

variable {σ α β : Type} {P : α → Prop} {Q : β → Prop}

theorem pure {a : α} (h : P a) : Run.Returns P (Pure.pure a : Run σ α) := by
  rintro s _ _ ⟨⟩
  exact h

/-- What is known of a result of the first run may be used in the second. -/
theorem bind {m : Run σ α} {f : α → Run σ β} (h : Run.Returns P m)
    (hf : ∀ a, P a → Run.Returns Q (f a)) : Run.Returns Q (m >>= f) := by
  intro s b s'' hb
  obtain ⟨a, s', ha, hb⟩ := Run.exists_of_bind hb
  exact hf a (h s a s' ha) s' b s'' hb

/-- Nothing need be known of the first of two runs. -/
theorem of_bind {m : Run σ α} {f : α → Run σ β} (hf : ∀ a, Run.Returns Q (f a)) :
    Run.Returns Q (m >>= f) :=
  bind (P := fun _ => True) (fun _ _ _ _ => trivial) fun a _ => hf a

/-- What is known of a result is known of what is made from it. -/
theorem map {m : Run σ α} {f : α → β} (h : Run.Returns P m) (hf : ∀ a, P a → Q (f a)) :
    Run.Returns Q (f <$> m) := by
  rw [map_eq_pure_bind]
  exact h.bind fun a ha => .pure (hf a ha)

end Run.Returns

namespace Script.Interpreter

variable {σ : Type} {i j k : Interpreter σ}

/-- The interpreter `j` has what a run leaves alone from `i`. -/
structure Frame (i j : Interpreter σ) : Prop where
  modules : j.modules = i.modules
  print : j.print = i.print
  osAccess : j.osAccess = i.osAccess

theorem Frame.refl (i : Interpreter σ) : Frame i i := ⟨rfl, rfl, rfl⟩

theorem Frame.trans (h : Frame i j) (h' : Frame j k) : Frame i k :=
  ⟨h'.modules.trans h.modules, h'.print.trans h.print, h'.osAccess.trans h.osAccess⟩

theorem bind_frame (i : Interpreter σ) (name : String) (o : Object σ) :
    Frame i (i.bind name o) :=
  ⟨rfl, rfl, rfl⟩

/-- To hold functions under names changes the names only. -/
theorem bindFunctions_frame (i : Interpreter σ) (functions : List (String × Native σ)) :
    Frame i (i.bindFunctions functions) := by
  induction functions generalizing i with
  | nil => exact .refl i
  | cons a rest ih => exact (bind_frame i a.1 (.function a.1 a.2)).trans (ih _)

/-- So it is for modules, whether all of them are found or not. -/
theorem bindModules_frame (i : Interpreter σ) (names : List String) :
    Frame i (i.bindModules names).2 := by
  induction names generalizing i with
  | nil => exact .refl i
  | cons name rest ih =>
    rw [bindModules]
    cases i.moduleOf name with
    | error e => exact .refl i
    | ok m => exact (bind_frame i name (.module name)).trans (ih _)

/-- A statement registers no modules, and leaves the settings of the interpreter alone. -/
theorem run_frame (i : Interpreter σ) (s : Stmt) :
    (i.run s).Returns fun x => Frame i x.2 := by
  cases s with
  | expr e | raise e =>
    refine .of_bind fun result => ?_
    cases result with
    | error e => exact .pure (.refl i)
    | ok o => exact .pure (.refl i)
  | assign target e =>
    refine .of_bind fun result => ?_
    cases result with
    | error e => exact .pure (.refl i)
    | ok o => exact .pure (bind_frame i target o)
  | importModule name =>
    rw [run]
    cases i.moduleOf name with
    | error e => exact .pure (.refl i)
    | ok m => exact .pure (bind_frame i name (.module name))
  | importAll name =>
    rw [run]
    cases i.moduleOf name with
    | error e => exact .pure (.refl i)
    | ok m => exact .pure ((bindFunctions_frame ..).trans (bindModules_frame ..))

/-- Statements do so one after the other. -/
theorem runAll_frame (i : Interpreter σ) (ss : List Stmt) :
    (i.runAll ss).Returns fun x => Frame i x.2 := by
  induction ss generalizing i with
  | nil => exact .pure (.refl i)
  | cons s rest ih =>
    refine .bind (run_frame i s) fun x hx => ?_
    obtain ⟨result, j⟩ := x
    cases result with
    | error e => exact .pure hx
    | ok _ => exact fun s x s' hrun => hx.trans (ih j s x s' hrun)

/-- The report of a result changes nothing but the exception that is left behind. -/
theorem complete_frame (i : Interpreter σ) (result : Except Exception (Object σ)) :
    Frame i (i.complete result).2 := by
  rw [complete.eq_def]
  split
  · exact .refl i
  · split
    · exact .refl i
    · exact ⟨rfl, rfl, rfl⟩
  · exact ⟨rfl, rfl, rfl⟩

/-- The run of a source changes nothing but names, the exception left behind and the count. -/
theorem input_frame (i : Interpreter σ) (mode : InputMode) (code : String) :
    (i.input mode code).Returns fun x => Frame i x.2 := by
  have hcounted : Frame i i.counted := ⟨rfl, rfl, rfl⟩
  cases mode with
  | expression =>
    rw [input, evaluate]
    cases expressionOf? code with
    | none => exact .pure (hcounted.trans (complete_frame ..))
    | some e => exact .of_bind fun result => .pure (hcounted.trans (complete_frame ..))
  | statements =>
    rw [input, execute]
    cases programOf? code with
    | none => exact .pure (hcounted.trans (complete_frame ..))
    | some ss =>
      refine .bind (runAll_frame i.counted ss) fun x hx => ?_
      exact .pure ((hcounted.trans hx).trans (complete_frame ..))

end Script.Interpreter

end LedBoard
