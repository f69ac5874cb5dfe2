import LedBoard.Module
import Mathlib.Data.List.Forall2

/-!
# Runs on two hosts

Two runs on different hosts are compared by a relation `R` between the hosts: one simulates the
other if, from related hosts, both crash in the same way, or both return, with results that are
related again, and leave related hosts behind.

* `Run.Sim`, `Attempt.Sim`: the comparison of runs, and of runs that can be refused;
* `Run.CrashFree`: a run that never crashes;
* `Native.Sim`: of native functions, which must return the same value for the same arguments;
* `Module.Sim`: of modules, which must have the same names.
-/

namespace LedBoard

variable {ε α β α' β' σ τ : Type}

/-- Two results: the same failure, or values that `A` relates. -/
inductive Ended (A : α → β → Prop) : Except ε α → Except ε β → Prop
  | failed (e : ε) : Ended A (.error e) (.error e)
  | returned {a : α} {b : β} (h : A a b) : Ended A (.ok a) (.ok b)

/-- What ended alike did so for a weaker relation too. -/
theorem Ended.mono {A B : α → β → Prop} {x : Except ε α} {y : Except ε β}
    (h : ∀ a b, A a b → B a b) (hxy : Ended A x y) : Ended B x y := by
  cases hxy with
  | failed e => exact .failed e
  | returned hab => exact .returned (h _ _ hab)

theorem Ended.refl (x : Except ε α) : Ended Eq x x := by
  cases x with
  | error e => exact .failed e
  | ok a => exact .returned rfl

/-- What ended alike with equal results is equal. -/
theorem Ended.eq {x y : Except ε α} (h : Ended Eq x y) : x = y := by
  cases h with
  | failed e => rfl
  | returned h => rw [h]

variable (R : σ → τ → Prop)

/-! ## Runs -/

/-- From related hosts, both runs crash alike, or return related results on related hosts. -/
def Run.Sim (A : α → β → Prop) (m : Run σ α) (n : Run τ β) : Prop :=
  ∀ s t, R s t → Ended (fun x y => A x.1 y.1 ∧ R x.2 y.2) (m s) (n t)

namespace Run.Sim

variable {R}

theorem pure {A : α → β → Prop} {a : α} {b : β} (h : A a b) :
    Run.Sim R A (Pure.pure a) (Pure.pure b) :=
  fun _ _ hst => .returned ⟨h, hst⟩

/-- Two runs one after the other simulate each other if their parts do, the second with results that
    are related. -/
theorem bind {A : α → β → Prop} {B : α' → β' → Prop} {m : Run σ α} {n : Run τ β}
    {f : α → Run σ α'} {g : β → Run τ β'} (h : Run.Sim R A m n)
    (hfg : ∀ a b, A a b → Run.Sim R B (f a) (g b)) : Run.Sim R B (m >>= f) (n >>= g) := by
  intro s t hst
  have hmn := h s t hst
  change Ended _ (m s >>= fun x => f x.1 x.2) (n t >>= fun y => g y.1 y.2)
  generalize m s = x, n t = y at hmn
  cases hmn with
  | failed crash => exact .failed crash
  | returned hab => exact hfg _ _ hab.1 _ _ hab.2

theorem refl (m : Run σ α) : Run.Sim Eq Eq m m := by
  rintro s _ rfl
  cases m s with
  | error crash => exact .failed crash
  | ok x => exact .returned ⟨rfl, rfl⟩

theorem mono {A B : α → β → Prop} {m : Run σ α} {n : Run τ β} (h : Run.Sim R A m n)
    (hAB : ∀ a b, A a b → B a b) : Run.Sim R B m n :=
  fun s t hst => (h s t hst).mono fun _ _ hab => ⟨hAB _ _ hab.1, hab.2⟩

end Run.Sim

/-- The second of two runs goes on where the first one returned. -/
theorem Run.bind_apply (m : Run σ α) (f : α → Run σ α') (s : σ) :
    (m >>= f) s = m s >>= fun x => f x.1 x.2 := rfl

/-- The second of two runs starts where the first has returned. -/
theorem Run.bind_of_ok {m : Run σ α} {f : α → Run σ α'} {s s' : σ} {a : α}
    (h : m s = .ok (a, s')) : (m >>= f) s = f a s' := by
  rw [Run.bind_apply, h]
  rfl

/-- A crash of the first run is that of both. -/
theorem Run.bind_of_error {m : Run σ α} (f : α → Run σ α') {s : σ} {crash : Crash}
    (h : m s = .error crash) : (m >>= f) s = .error crash := by
  rw [Run.bind_apply, h]
  rfl

/-- A run of two that returns is a run of the first that returns and one of the second. -/
theorem Run.exists_of_bind {m : Run σ α} {f : α → Run σ α'} {s s'' : σ} {b : α'}
    (h : (m >>= f) s = .ok (b, s'')) : ∃ a s', m s = .ok (a, s') ∧ f a s' = .ok (b, s'') := by
  change (m s >>= fun x => f x.1 x.2) = _ at h
  cases hm : m s with
  | error crash =>
    rw [hm] at h
    cases h
  | ok x =>
    rw [hm] at h
    exact ⟨x.1, x.2, rfl, h⟩

/-- The run whose result is changed afterwards. -/
theorem Run.map_apply (f : α → α') (m : Run σ α) (s : σ) :
    (f <$> m) s = (m s).map fun x => (f x.1, x.2) :=
  StateT.run_map f m s

/-- The run returns, whatever state it starts from. -/
def Run.CrashFree (m : Run σ α) : Prop := ∀ s, ∃ x, m s = .ok x

namespace Run.CrashFree

theorem pure (a : α) : CrashFree (Pure.pure a : Run σ α) := fun s => ⟨(a, s), rfl⟩

/-- Of two runs that do not crash, neither do both together. -/
theorem bind {m : Run σ α} {f : α → Run σ α'} (h : CrashFree m) (hf : ∀ a, CrashFree (f a)) :
    CrashFree (m >>= f) := by
  intro s
  obtain ⟨⟨a, s'⟩, hm⟩ := h s
  rw [Run.bind_of_ok hm]
  exact hf a s'

end Run.CrashFree

/-- Runs that can be refused with an `ε`, which then is the same in both. -/
def Attempt.Sim (A : α → β → Prop) (m : ExceptT ε (Run σ) α) (n : ExceptT ε (Run τ) β) : Prop :=
  Run.Sim R (Ended A) m.run n.run

namespace Attempt.Sim

variable {R}

theorem pure {A : α → β → Prop} {a : α} {b : β} (h : A a b) :
    Attempt.Sim R A (Pure.pure a : ExceptT ε (Run σ) α) (Pure.pure b : ExceptT ε (Run τ) β) :=
  Run.Sim.pure (.returned h)

theorem refl (m : ExceptT ε (Run σ) α) : Attempt.Sim Eq Eq m m :=
  (Run.Sim.refl m.run).mono fun x _ hxy => hxy ▸ .refl x

/-- The same exception is raised on both sides. -/
theorem throw {A : α → β → Prop} (e : ε) :
    Attempt.Sim R A (throw e : ExceptT ε (Run σ) α) (throw e : ExceptT ε (Run τ) β) :=
  Run.Sim.pure (.failed e)

/-- The same crash happens on both sides. -/
theorem crash {A : α → β → Prop} (crash : Crash) :
    Attempt.Sim R A (throwThe Crash crash : ExceptT ε (Run σ) α)
      (throwThe Crash crash : ExceptT ε (Run τ) β) :=
  fun _ _ _ => .failed crash

/-- Two attempts one after the other simulate each other if their parts do; where the first raises
    an exception, the second is left out on both sides. -/
theorem bind {A : α → β → Prop} {B : α' → β' → Prop} {m : ExceptT ε (Run σ) α}
    {n : ExceptT ε (Run τ) β} {f : α → ExceptT ε (Run σ) α'} {g : β → ExceptT ε (Run τ) β'}
    (h : Attempt.Sim R A m n) (hfg : ∀ a b, A a b → Attempt.Sim R B (f a) (g b)) :
    Attempt.Sim R B (m >>= f) (n >>= g) := by
  refine Run.Sim.bind h fun x y hxy => ?_
  cases hxy with
  | failed e => exact Run.Sim.pure (.failed e)
  | returned hab => exact hfg _ _ hab

/-- What acts on the host alone simulates as an attempt what it simulates as a run. -/
theorem lift {A : α → β → Prop} {m : Run σ α} {n : Run τ β} (h : Run.Sim R A m n) :
    Attempt.Sim R A (liftM m : ExceptT ε (Run σ) α) (liftM n : ExceptT ε (Run τ) β) :=
  Run.Sim.bind h fun _ _ hab => Run.Sim.pure (.returned hab)

/-- Related results may be changed to related ones. -/
theorem map {A : α → β → Prop} {B : α' → β' → Prop} {m : ExceptT ε (Run σ) α}
    {n : ExceptT ε (Run τ) β} {f : α → α'} {g : β → β'} (h : Attempt.Sim R A m n)
    (hfg : ∀ a b, A a b → B (f a) (g b)) : Attempt.Sim R B (f <$> m) (g <$> n) :=
  h.bind fun a b hab => Run.Sim.pure (.returned (hfg a b hab))

end Attempt.Sim

/-! ## Native functions and modules -/

/-- Native functions that do the same to related hosts, whatever the arguments. -/
def Native.Sim (f : Native σ) (g : Native τ) : Prop :=
  ∀ args, Attempt.Sim R Eq (f args) (g args)

/-- Modules with the same names, whose functions `N` relates. -/
structure Module.Sim (N : String → Native σ → Native τ → Prop) (m : Module σ) (n : Module τ) :
    Prop where
  name : m.name = n.name
  functions : List.Forall₂ (fun a b => a.1 = b.1 ∧ N a.1 a.2 b.2) m.functions n.functions
  imports : m.imports = n.imports

/-- A module is related to itself if every native function is. -/
theorem Module.Sim.refl {N : String → Native σ → Native σ → Prop} (hN : ∀ name f, N name f f)
    (m : Module σ) : Module.Sim N m m := by
  refine ⟨rfl, ?_, rfl⟩
  induction m.functions with
  | nil => exact .nil
  | cons a rest ih => exact .cons ⟨rfl, hN a.1 a.2⟩ ih

/-- Under a name both modules have related functions, or both have none. -/
theorem Module.Sim.function? {N : String → Native σ → Native τ → Prop} {m : Module σ}
    {n : Module τ} (h : Module.Sim N m n) (name : String) :
    Option.Rel (N name) (m.function? name) (n.function? name) := by
  have hfunctions := h.functions
  rw [Module.function?, Module.function?]
  generalize m.functions = fs, n.functions = gs at hfunctions
  induction hfunctions with
  | nil => exact .none
  | @cons a b as bs hab _ ih =>
    obtain ⟨x, f⟩ := a
    obtain ⟨y, g⟩ := b
    obtain ⟨rfl, hfg⟩ : x = y ∧ N x f g := hab
    rw [List.lookup_cons, List.lookup_cons]
    cases hname : name == x with
    | true => exact .some (eq_of_beq hname ▸ hfg)
    | false => exact ih

end LedBoard
