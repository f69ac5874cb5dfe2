import LedBoard.Proofs.Script.Journal

/-!
# A run up to a moment

A run can be looked at in its middle by stopping it there: the call of a native function where it
is to stop is done like every other, but refused afterwards, and since no script catches an
exception, this ends the run. So what is left behind is what there is right after this call, even
if the run would crash later on.

* `Interpreter.midway?`: the deeds of a run up to such a call, and the host right after it;
* `Only.midway`: what every print and every call keeps is true there;
* `Sim.midway`: of two interpreters of which one simulates the other, both have done the same
  there, and their hosts are related.
-/

namespace LedBoard

variable {σ τ : Type}

/-- The native function that answers as often as the number beside the host says, and is refused
    after it is done from then on. -/
def Native.stopping (f : Native σ) : Native (Nat × σ) := fun args => ExceptT.mk fun w =>
  ((f args).run w.2).map fun x =>
    (if w.1 = 0 then .error (.value "stopped") else x.1, (w.1 - 1, x.2))

/-- A call counts down the calls that are left, and refuses to go on where there are none. -/
theorem Native.stopping_apply (f : Native σ) (args : List Value) (w : Nat × σ) :
    (f.stopping args).run w = ((f args).run w.2).map fun x =>
      (if w.1 = 0 then .error (.value "stopped") else x.1, (w.1 - 1, x.2)) := rfl

theorem Native.Sim.stopping {R : σ → τ → Prop} {f : Native σ} {g : Native τ}
    (h : Native.Sim R f g) :
    Native.Sim (fun w v => w.1 = v.1 ∧ R w.2 v.2) f.stopping g.stopping := by
  rintro args ⟨left, s⟩ ⟨_, t⟩ ⟨rfl, hst⟩
  have hrun := h args s t hst
  rw [Native.stopping_apply, Native.stopping_apply]
  dsimp only
  generalize (f args).run s = x, (g args).run t = y at hrun
  cases hrun with
  | failed crash => exact .failed crash
  | returned hxy =>
    refine .returned ⟨?_, rfl, hxy.2⟩
    dsimp only
    rw [hxy.1.eq]
    exact .refl _

namespace Script.Interpreter

/-- The interpreter that stops at the call of a native function for which the number beside the
    host is zero. -/
def stopping (i : Interpreter σ) : Interpreter (Nat × σ) :=
  i.rewire (fun _ => Native.stopping) (some fun chunk w =>
    (w.1, i.print.elim w.2 fun print => print chunk w.2))

/-- The deeds of a run up to its call number `n`, counted from zero, and the host right after
    this call; of a run that ends before, all deeds and the host at its end; and nothing of one
    that crashes before. -/
def midway? (i : Interpreter σ) (mode : InputMode) (code : String) (n : Nat) (s : σ) :
    Option (List Deed × σ) :=
  match i.stopping.recorded.input mode code ([], (n, s)) with
  | .ok (_, (deeds, (_, s'))) => some (deeds, s')
  | .error _ => none

/-- What is true at first and kept by every print and every call is true at every moment. -/
theorem Only.midway {P : String → Native σ → Prop} {i : Interpreter σ} (h : i.Only P)
    {K : List Deed → σ → Prop}
    (hcall : ∀ {name f}, P name f → ∀ args deeds s r s', K deeds s →
      (f args).run s = .ok (r, s') → K (deeds ++ [.called name args]) s')
    (hprint : ∀ chunk deeds s, K deeds s →
      K (deeds ++ [.printed chunk]) (i.print.elim s fun print => print chunk s))
    {mode : InputMode} {code : String} {n : Nat} {s s' : σ} {deeds : List Deed} (hs : K [] s)
    (hmidway : i.midway? mode code n s = some (deeds, s')) : K deeds s' := by
  -- The run that is stopped is an ordinary one, of functions that act first and refuse afterwards.
  have hstopping : i.stopping.Only fun name g => ∃ f, g = Native.stopping f ∧ P name f :=
    Bound.rewire h (by rintro name f _ ⟨rfl, hf⟩; exact ⟨rfl, f, rfl, hf⟩) _ _
  have hsim := (hstopping.recorded_sim (K := fun deeds w => K deeds w.2) ?_
    fun chunk deeds w hk => hprint chunk deeds w.2 hk).input mode code ([], (n, s)) (n, s) ⟨rfl, hs⟩
  · rw [midway?] at hmidway
    generalize i.stopping.recorded.input mode code ([], (n, s)) = x,
      i.stopping.input mode code (n, s) = y at hsim hmidway
    cases hsim with
    | failed crash => cases hmidway
    | returned hend =>
      obtain ⟨-, hhost, hk⟩ := hend
      rw [← hhost] at hk
      cases hmidway
      exact hk
  · -- Whether or not the call is refused afterwards, it was done, and so `K` is kept.
    rintro name _ ⟨f, rfl, hf⟩ args deeds w r w' hk hrun
    rw [Native.stopping_apply] at hrun
    cases hcalled : (f args).run w.2 with
    | error crash =>
      rw [hcalled] at hrun
      cases hrun
    | ok x =>
      rw [hcalled] at hrun
      cases hrun
      exact hcall hf args _ _ _ _ hk hcalled

/-- An interpreter that simulates another does so when both stop at the same call. -/
theorem Sim.stopping {R : σ → τ → Prop} {N : String → Native σ → Native τ → Prop}
    {seen : String → Prop} {i : Interpreter σ} {j : Interpreter τ} (h : Sim R N seen i j) :
    Sim (fun w v => w.1 = v.1 ∧ R w.2 v.2)
      (fun name f g => ∃ f' g', f = Native.stopping f' ∧ g = Native.stopping g' ∧ N name f' g')
      seen i.stopping j.stopping where
  toBound := h.toBound.rewire (fun hfg => ⟨_, _, rfl, rfl, hfg⟩) _ _
  natives := by
    rintro name _ _ ⟨f, g, rfl, rfl, hfg⟩
    exact (h.natives hfg).stopping
  write chunk := by
    rintro ⟨left, s⟩ ⟨_, t⟩ ⟨rfl, hst⟩
    have hwrite := h.write chunk s t hst
    rw [write_apply, write_apply] at hwrite ⊢
    cases hwrite with
    | returned hprinted => exact .returned ⟨.returned rfl, rfl, hprinted.2⟩
  pending := h.pending
  runs := h.runs

/-- At every moment both have done the same, and their hosts are related. -/
theorem Sim.midway {R : σ → τ → Prop} {N : String → Native σ → Native τ → Prop}
    {i : Interpreter σ} {j : Interpreter τ} (h : Sim R N (fun _ => True) i j) (mode : InputMode)
    (code : String) (n : Nat) {s : σ} {t : τ} (hst : R s t) :
    Option.Rel (fun x y => x.1 = y.1 ∧ R x.2 y.2) (i.midway? mode code n s)
      (j.midway? mode code n t) := by
  have hsim := h.stopping.recorded.input mode code ([], (n, s)) ([], (n, t)) ⟨rfl, rfl, hst⟩
  rw [midway?, midway?]
  generalize i.stopping.recorded.input mode code ([], (n, s)) = x,
    j.stopping.recorded.input mode code ([], (n, t)) = y at hsim
  cases hsim with
  | failed crash => exact .none
  | returned hend => exact .some ⟨hend.2.1, hend.2.2.2⟩

end Script.Interpreter

end LedBoard
