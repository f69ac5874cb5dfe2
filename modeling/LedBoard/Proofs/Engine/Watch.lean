import LedBoard.Plan
import LedBoard.Proofs.Simulation

/-!
# Interpreters under watch

To see how interpreters are used, whatever they do, an engine can be put under watch: its
operations do what they did, and beside them a log is kept of every call, with the number of the
instance and the answer. The instances are numbered in the order in which they were asked for.
Letting go of an instance is no call.

* `Engine.watched`: the engine under watch;
* `Watch.Same`: nothing else changes, so a run under watch simulates the run without it;
* `Logs`: what a run adds to the log, with one lemma for every operation;
* `InOrder`: calls made one after the other up to the first failure.
-/

namespace LedBoard

/-- How a call was answered. -/
inductive Reply
  /-- It did what was asked. -/
  | done
  | failed (cause : EngineError)
  /-- Whether the source is an expression. -/
  | told (isExpression : Bool)
  /-- How the run of a source ended. -/
  | ended (completion : Completion)
  deriving DecidableEq, Repr

/-- The answer of an operation that succeeds or fails. -/
def Reply.of {α : Type} : Except EngineError α → Reply
  | .ok _ => .done
  | .error cause => .failed cause

/-- A call on an instance, by its number, and the answer. -/
structure Exchange where
  number : Nat
  call : Plan.Call
  reply : Reply
  deriving DecidableEq, Repr

/-- What instances under watch share: what they shared before, how many were asked for, and the
    exchanges so far. -/
structure Watch (κ : Type) where
  shared : κ
  created : Nat := 0
  log : List Exchange := []

/-- An instance under watch. -/
structure Watched (ι : Type) where
  number : Nat
  inner : ι

variable {σ κ ι α β : Type}

/-- An operation that is put down in the log. -/
def watch (number : Nat) (call : Plan.Call) (reply : α → Reply) (m : Run (κ × σ) α) :
    Run (Watch κ × σ) α := fun (w, s) =>
  (m (w.shared, s)).map fun (a, (shared, s)) =>
    (a, ({ w with shared, log := w.log ++ [⟨number, call, reply a⟩] }, s))

/-- An operation on an instance, which keeps its number. -/
def Watched.ask (i : Watched ι) (call : Plan.Call) (reply : α → Reply)
    (m : ι → Run (κ × σ) (α × ι)) : Run (Watch κ × σ) (α × Watched ι) :=
  (fun x => (x.1, { i with inner := x.2 })) <$>
    watch i.number call (fun x => reply x.1) (m i.inner)

namespace Engine

/-- The engine under watch. -/
def watched (e : Engine σ κ ι) : Engine σ (Watch κ) (Watched ι) where
  create config := fun (w, s) =>
    (Except.map (Watched.mk w.created) <$> watch w.created
      (.create config.enableOsAccess config.print.isSome) .of (e.create config))
      ({ w with created := w.created + 1 }, s)
  setGlobalFunction i name f := i.ask (.global name) .of (e.setGlobalFunction · name f)
  registerModule i m :=
    i.ask (.module m.name m.functionNames m.imports) .of (e.registerModule · m)
  clearException i := Watched.mk i.number <$>
    watch i.number .clearException (fun _ => .done) (e.clearException i.inner)
  compilesAsExpression i code := i.ask (.compiles code) .told (e.compilesAsExpression · code)
  evaluate i code := i.ask (.evaluate code) .ended (e.evaluate · code)
  execute i code := i.ask (.execute code) .ended (e.execute · code)
  drop i := fun (w, s) =>
    (e.drop i.inner (w.shared, s)).map fun (a, (shared, s)) => (a, ({ w with shared }, s))

end Engine

/-! ## Nothing else changes -/

/-- The same beside the watch. -/
def Watch.Same (w : Watch κ × σ) (v : κ × σ) : Prop := w.1.shared = v.1 ∧ w.2 = v.2

/-- To watch a call is to make it. -/
theorem watch_sim (number : Nat) (call : Plan.Call) (reply : α → Reply) (m : Run (κ × σ) α) :
    Run.Sim Watch.Same Eq (watch number call reply m) m := by
  rintro ⟨w, s⟩ ⟨_, _⟩ ⟨rfl, rfl⟩
  rw [watch]
  dsimp only
  cases m (w.shared, s) with
  | error crash => exact .failed crash
  | ok x => exact .returned ⟨rfl, rfl, rfl⟩

/-- An instance under watch and the same instance without it. -/
def Watched.Is (i : Watched ι) (j : ι) : Prop := i.inner = j

/-- What an operation on an instance returns. -/
def Watched.Agree (x : α × Watched ι) (y : α × ι) : Prop := x.1 = y.1 ∧ x.2.Is y.2

/-- What is watched may be told more of than what is not. -/
theorem Run.Sim.map_left {τ α' : Type} {R : σ → τ → Prop} {A : α → β → Prop} {B : α' → β → Prop}
    {m : Run σ α} {n : Run τ β} {f : α → α'} (h : Run.Sim R A m n)
    (hf : ∀ a b, A a b → B (f a) b) : Run.Sim R B (f <$> m) n := by
  intro s t hst
  have hmn := h s t hst
  rw [Run.map_apply]
  generalize m s = x, n t = y at hmn
  cases hmn with
  | failed crash => exact .failed crash
  | returned hab => exact .returned ⟨hf _ _ hab.1, hab.2⟩

theorem Watched.ask_sim {i : Watched ι} {j : ι} (h : i.Is j) (call : Plan.Call)
    (reply : α → Reply) (m : ι → Run (κ × σ) (α × ι)) :
    Run.Sim Watch.Same Watched.Agree (i.ask call reply m) (m j) := by
  cases h
  exact (watch_sim _ _ _ _).map_left fun x y hxy => hxy ▸ ⟨rfl, rfl⟩

theorem Watch.onHost_sim (f : σ → α × σ) :
    Run.Sim Watch.Same Eq (Run.onHost f : Run (Watch κ × σ) α) (Run.onHost f : Run (κ × σ) α) := by
  rintro ⟨w, s⟩ ⟨_, _⟩ ⟨rfl, rfl⟩
  exact .returned ⟨rfl, rfl, rfl⟩

namespace Engine

variable (e : Engine σ κ ι)

/-- A watched engine creates the instances that the engine creates. -/
theorem create_sim (config : EngineConfig σ) :
    Run.Sim Watch.Same (Ended Watched.Is) (e.watched.create config) (e.create config) := by
  rintro ⟨w, s⟩ v hwv
  refine (watch_sim w.created _ _ (e.create config)).map_left ?_
    ({ w with created := w.created + 1 }, s) v hwv
  rintro (cause | i) _ rfl
  · exact .failed cause
  · exact .returned rfl

theorem drop_sim {i : Watched ι} {j : ι} (h : i.Is j) :
    Run.Sim Watch.Same Eq (e.watched.drop i) (e.drop j) := by
  cases h
  rintro ⟨w, s⟩ ⟨_, _⟩ ⟨rfl, rfl⟩
  change Ended _ ((e.drop i.inner (w.shared, s)).map _) _
  cases e.drop i.inner (w.shared, s) with
  | error crash => exact .failed crash
  | ok x => exact .returned ⟨rfl, rfl, rfl⟩

theorem clearException_sim {i : Watched ι} {j : ι} (h : i.Is j) :
    Run.Sim Watch.Same Watched.Is (e.watched.clearException i) (e.clearException j) := by
  cases h
  exact (watch_sim _ _ _ _).map_left fun _ _ hij => hij

/-- Functions are bound as they are without being watched, up to the same failure. -/
theorem setGlobalFunctions_sim {i : Watched ι} {j : ι} (h : i.Is j)
    (functions : List (String × Native σ)) :
    Run.Sim Watch.Same Watched.Agree (e.watched.setGlobalFunctions i functions)
      (e.setGlobalFunctions j functions) := by
  induction functions generalizing i j with
  | nil => exact .pure ⟨rfl, h⟩
  | cons a rest ih =>
    refine (Watched.ask_sim h _ _ (e.setGlobalFunction · a.1 a.2)).bind ?_
    rintro ⟨result, i'⟩ ⟨_, j'⟩ ⟨rfl, h'⟩
    cases result with
    | ok => exact ih h'
    | error cause => exact .pure ⟨rfl, h'⟩

/-- So are modules registered. -/
theorem registerModules_sim {i : Watched ι} {j : ι} (h : i.Is j) (ms : List (Module σ)) :
    Run.Sim Watch.Same Watched.Agree (e.watched.registerModules i ms) (e.registerModules j ms) := by
  induction ms generalizing i j with
  | nil => exact .pure ⟨rfl, h⟩
  | cons m rest ih =>
    refine (Watched.ask_sim h _ _ (e.registerModule · m)).bind ?_
    rintro ⟨result, i'⟩ ⟨_, j'⟩ ⟨rfl, h'⟩
    cases result with
    | ok => exact ih h'
    | error cause => exact .pure ⟨rfl, h'⟩

end Engine

/-! ## What is added to the log -/

/-- From a watch under which `n` instances have been asked for, a run that returns adds to the
    log, such that `P` is true of its result, of the number of instances asked for after it, and
    of the exchanges added. -/
def Logs (n : Nat) (m : Run (Watch κ × σ) α) (P : α → Nat → List Exchange → Prop) : Prop :=
  ∀ w s a w' s', w.created = n → m (w, s) = .ok (a, (w', s')) →
    ∃ xs, w'.log = w.log ++ xs ∧ P a w'.created xs

namespace Logs

variable {n : Nat} {m : Run (Watch κ × σ) α} {P : α → Nat → List Exchange → Prop}

theorem pure {a : α} (h : P a n []) : Logs n (Pure.pure a : Run (Watch κ × σ) α) P := by
  rintro w s _ _ _ rfl hrun
  cases hrun
  exact ⟨[], (List.append_nil _).symm, h⟩

/-- The calls of two runs one after the other are logged in this order. -/
theorem bind {f : α → Run (Watch κ × σ) β} {Q : β → Nat → List Exchange → Prop} (h : Logs n m P)
    (hf : ∀ a n' xs, P a n' xs → Logs n' (f a) fun b n'' ys => Q b n'' (xs ++ ys)) :
    Logs n (m >>= f) Q := by
  intro w s b w'' s'' hn hrun
  obtain ⟨a, ⟨w', s'⟩, hm, hfa⟩ := Run.exists_of_bind hrun
  obtain ⟨xs, hxs, hP⟩ := h w s a w' s' hn hm
  obtain ⟨ys, hys, hQ⟩ := hf a _ xs hP w' s' b w'' s'' rfl hfa
  exact ⟨xs ++ ys, by rw [hys, hxs, List.append_assoc], hQ⟩

theorem mono {Q : α → Nat → List Exchange → Prop} (h : Logs n m P)
    (hPQ : ∀ a n' xs, P a n' xs → Q a n' xs) : Logs n m Q := by
  intro w s a w' s' hn hrun
  obtain ⟨xs, hxs, hP⟩ := h w s a w' s' hn hrun
  exact ⟨xs, hxs, hPQ _ _ _ hP⟩

theorem map {f : α → β} {Q : β → Nat → List Exchange → Prop} (h : Logs n m P)
    (hPQ : ∀ a n' xs, P a n' xs → Q (f a) n' xs) : Logs n (f <$> m) Q :=
  h.bind fun a n' xs hP => .pure (by rw [List.append_nil]; exact hPQ a n' xs hP)

/-- A call adds itself and its answer. -/
theorem watch (number : Nat) (call : Plan.Call) (reply : α → Reply) (m : Run (κ × σ) α) :
    Logs n (LedBoard.watch number call reply m) fun a n' xs =>
      n' = n ∧ xs = [⟨number, call, reply a⟩] := by
  intro w s a w' s' hn hrun
  rw [LedBoard.watch] at hrun
  cases hm : m (w.shared, s) with
  | error crash =>
    rw [hm] at hrun
    cases hrun
  | ok x =>
    rw [hm] at hrun
    cases hrun
    exact ⟨_, rfl, hn, rfl⟩

/-- A call on an instance is logged with the number of the instance, and with the answer. -/
theorem ask (i : Watched ι) (call : Plan.Call) (reply : α → Reply)
    (m : ι → Run (κ × σ) (α × ι)) :
    Logs n (i.ask call reply m) fun x n' xs =>
      n' = n ∧ x.2.number = i.number ∧ xs = [⟨i.number, call, reply x.1⟩] :=
  (watch i.number call _ (m i.inner)).map fun _ _ _ hx => ⟨hx.1, rfl, hx.2⟩

variable (e : Engine σ κ ι)

/-- A new instance has the next number, whether or not it could be created. -/
theorem create (config : EngineConfig σ) :
    Logs n (e.watched.create config) fun r n' xs =>
      n' = n + 1 ∧ (∀ i, r = .ok i → i.number = n) ∧
        xs = [⟨n, .create config.enableOsAccess config.print.isSome, .of r⟩] := by
  rintro w s r w' s' rfl hrun
  have hlogs : Logs (w.created + 1) (Except.map (Watched.mk w.created) <$> LedBoard.watch w.created
      (.create config.enableOsAccess config.print.isSome) .of (e.create config)) fun r n' xs =>
        n' = w.created + 1 ∧ (∀ i, r = .ok i → i.number = w.created) ∧
          xs = [⟨w.created, .create config.enableOsAccess config.print.isSome, .of r⟩] := by
    refine (watch _ _ _ _).map ?_
    rintro (cause | i) _ _ ⟨rfl, rfl⟩
    · exact ⟨rfl, fun i hi => (by cases hi), rfl⟩
    · refine ⟨rfl, ?_, rfl⟩
      rintro _ ⟨⟩
      rfl
  exact hlogs { w with created := w.created + 1 } s r w' s' rfl hrun

theorem clearException (i : Watched ι) :
    Logs n (e.watched.clearException i) fun j n' xs =>
      n' = n ∧ j.number = i.number ∧ xs = [⟨i.number, .clearException, .done⟩] :=
  (watch i.number .clearException _ _).map fun _ _ _ hx => ⟨hx.1, rfl, hx.2⟩

/-- Letting go of an instance is no call. -/
theorem drop (i : Watched ι) :
    Logs n (e.watched.drop i) fun _ n' xs => n' = n ∧ xs = [] := by
  intro w s a w' s' hn hrun
  change (e.drop i.inner (w.shared, s)).map _ = _ at hrun
  cases hdrop : e.drop i.inner (w.shared, s) with
  | error crash =>
    rw [hdrop] at hrun
    cases hrun
  | ok x =>
    rw [hdrop] at hrun
    cases hrun
    exact ⟨[], (List.append_nil _).symm, hn, rfl⟩

/-- What is done to the host is no call. -/
theorem onHost (f : σ → α × σ) :
    Logs n (Run.onHost f : Run (Watch κ × σ) α) fun _ n' xs => n' = n ∧ xs = [] := by
  rintro w s a w' s' hn hrun
  cases hrun
  exact ⟨[], (List.append_nil _).symm, hn, rfl⟩

end Logs

/-! ## Calls in order -/

/-- The calls are made one after the other up to the first failure. -/
inductive InOrder : List (Nat × Plan.Call) → Except EngineError Unit → List Exchange → Prop
  | nil : InOrder [] (.ok ()) []
  | done {number : Nat} {call : Plan.Call} {rest : List (Nat × Plan.Call)}
      {result : Except EngineError Unit} {xs : List Exchange} (h : InOrder rest result xs) :
      InOrder ((number, call) :: rest) result (⟨number, call, .done⟩ :: xs)
  | failed (number : Nat) (call : Plan.Call) (rest : List (Nat × Plan.Call))
      (cause : EngineError) :
      InOrder ((number, call) :: rest) (.error cause) [⟨number, call, .failed cause⟩]

/-- The call did what was asked. -/
def Exchange.ofDone (c : Nat × Plan.Call) : Exchange := ⟨c.1, c.2, .done⟩

namespace InOrder

variable {calls more : List (Nat × Plan.Call)} {result : Except EngineError Unit}
  {cause : EngineError} {xs ys : List Exchange}

/-- Calls that all went well are all of them, in their order. -/
theorem eq_map (h : InOrder calls (.ok ()) xs) : xs = calls.map .ofDone := by
  generalize hr : Except.ok () = r at h
  induction h with
  | nil => rfl
  | done _ ih => rw [ih hr]; rfl
  | failed => cases hr

/-- What went well is followed by further calls. -/
theorem append (h : InOrder calls (.ok ()) xs) (hmore : InOrder more result ys) :
    InOrder (calls ++ more) result (xs ++ ys) := by
  generalize hr : Except.ok () = r at h
  induction h with
  | nil => exact hmore
  | done _ ih => exact .done (ih hr)
  | failed => cases hr

/-- What failed is followed by none. -/
theorem append_left (h : InOrder calls (.error cause) xs) (more : List (Nat × Plan.Call)) :
    InOrder (calls ++ more) (.error cause) xs := by
  generalize hr : Except.error cause = r at h
  induction h with
  | nil => cases hr
  | done _ ih => exact .done (ih hr)
  | failed number call rest cause =>
    cases hr
    exact .failed number call (rest ++ more) _

/-- No more calls are made than there are. -/
theorem length_le (h : InOrder calls result xs) : xs.length ≤ calls.length := by
  induction h with
  | nil => exact Nat.le_refl 0
  | done _ ih => exact Nat.succ_le_succ ih
  | failed => exact Nat.succ_le_succ (Nat.zero_le _)

end InOrder

namespace Logs

variable {n : Nat} (e : Engine σ κ ι)

/-- Functions are bound one call after the other, up to the first failure. -/
theorem setGlobalFunctions (i : Watched ι) (functions : List (String × Native σ)) :
    Logs n (e.watched.setGlobalFunctions i functions) fun x n' xs =>
      n' = n ∧ x.2.number = i.number ∧
        InOrder (functions.map fun a => (i.number, .global a.1)) x.1 xs := by
  induction functions generalizing i with
  | nil => exact .pure ⟨rfl, rfl, .nil⟩
  | cons a rest ih =>
    refine (ask i (.global a.1) .of (e.setGlobalFunction · a.1 a.2)).bind ?_
    rintro ⟨result, i'⟩ _ _ ⟨rfl, hnumber, rfl⟩
    cases result with
    | error cause => exact .pure ⟨rfl, hnumber, .failed _ _ _ _⟩
    | ok =>
      refine (ih i').mono ?_
      rintro x _ xs ⟨rfl, hnumber', hxs⟩
      rw [show i'.number = i.number from hnumber] at hnumber' hxs
      exact ⟨rfl, hnumber', .done hxs⟩

/-- So are modules registered. -/
theorem registerModules (i : Watched ι) (ms : List (Module σ)) :
    Logs n (e.watched.registerModules i ms) fun x n' xs =>
      n' = n ∧ x.2.number = i.number ∧
        InOrder (ms.map fun m => (i.number, .module m.name m.functionNames m.imports)) x.1 xs := by
  induction ms generalizing i with
  | nil => exact .pure ⟨rfl, rfl, .nil⟩
  | cons m rest ih =>
    refine (ask i _ .of (e.registerModule · m)).bind ?_
    rintro ⟨result, i'⟩ _ _ ⟨rfl, hnumber, rfl⟩
    cases result with
    | error cause => exact .pure ⟨rfl, hnumber, .failed _ _ _ _⟩
    | ok =>
      refine (ih i').mono ?_
      rintro x _ xs ⟨rfl, hnumber', hxs⟩
      rw [show i'.number = i.number from hnumber] at hnumber' hxs
      exact ⟨rfl, hnumber', .done hxs⟩

end Logs

end LedBoard
