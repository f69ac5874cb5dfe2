import LedBoard.Proofs.Embedded.History

/-!
# How long things live

What an instance takes it gives back: every reference, before its context ends, and the context
itself, when it is let go of. What it files for the machine it keeps until then.

* `outstanding`: how many references to an object were taken and not yet given back;
* `Balanced`: no more are given back than were taken, at any time, and in the end none is left;
* `Later`: what can come later as long as an instance lives, also in the midst of operations;
* `lifetimes_disciplined`: the discipline, at any time in a history.
-/

namespace LedBoard.Embedded

variable {L O : Type} {lib : Library L O} {c : Conduct lib}

/-! ## References -/

section References

variable [DecidableEq O]

/-- How many more references to an object were taken than given back. -/
def outstanding (o : O) (refs : List (Reference O)) : Int :=
  refs.count (.taken o) - refs.count (.given o)

theorem outstanding_append (o : O) (refs refs' : List (Reference O)) :
    outstanding o (refs ++ refs') = outstanding o refs + outstanding o refs' := by
  rw [outstanding, outstanding, outstanding, List.count_append, List.count_append]
  omega

theorem outstanding_taken (o o' : O) : outstanding o [.taken o'] = if o' = o then 1 else 0 := by
  by_cases h : o' = o <;> simp [outstanding, h]

theorem outstanding_given (o o' : O) :
    outstanding o [.given o'] = if o' = o then -1 else 0 := by
  by_cases h : o' = o <;> simp [outstanding, h]

/-- The end of a life gives back the class that was taken at its beginning. -/
theorem outstanding_closing (o : O) (a : Address) (systemExit : Option O) :
    outstanding o (references (closing a systemExit)) = if systemExit = some o then -1 else 0 := by
  cases systemExit with
  | none => rfl
  | some e =>
    simp only [Option.some_inj]
    exact outstanding_given o e

/-- In the end nothing is held, and on the way nothing is given back that is not held. -/
structure Balanced (refs : List (Reference O)) : Prop where
  even : ∀ o, outstanding o refs = 0
  held : ∀ o p, p <+: refs → 0 ≤ outstanding o p

namespace Balanced

variable {refs refs' : List (Reference O)}

theorem nil : Balanced ([] : List (Reference O)) where
  even _ := rfl
  held o p hp := by
    rw [List.prefix_nil.1 hp]
    exact Int.le_refl 0

/-- Two balanced parts are balanced together, as nothing is held over from the first to the second.
    -/
theorem append (h : Balanced refs) (h' : Balanced refs') : Balanced (refs ++ refs') where
  even o := by rw [outstanding_append, h.even, h'.even, Int.add_zero]
  held o p hp := by
    -- A prefix ends in the first list, or else it takes all of this and ends in the second.
    obtain ⟨s, hs⟩ := hp
    rcases List.append_eq_append_iff.1 hs with ⟨q, rfl, rfl⟩ | ⟨q, rfl, rfl⟩
    · exact h.held o p (List.prefix_append p q)
    · rw [outstanding_append, h.even, Int.zero_add]
      exact h'.held o q (List.prefix_append q s)

/-- A reference is taken before, and given back after. -/
theorem around (o : O) (h : Balanced refs) : Balanced (.taken o :: (refs ++ [.given o])) where
  even o' := by
    rw [← List.singleton_append, outstanding_append, outstanding_append, h.even,
      outstanding_taken, outstanding_given]
    split <;> rfl
  held o' p hp := by
    rcases List.prefix_cons_iff.1 hp with rfl | ⟨q, rfl, hq⟩
    · exact Int.le_refl 0
    · -- Up to the very last, the reference that was taken first makes up for one given back.
      rw [← List.singleton_append, outstanding_append, outstanding_taken]
      rcases List.prefix_concat_iff.1 hq with rfl | hq
      · rw [outstanding_append, h.even, outstanding_given]
        split <;> decide
      · have hheld := h.held o' q hq
        split <;> omega

/-- References that are at once given back are balanced. -/
theorem of_held (os : List O) : Balanced (Embedded.held os) := by
  induction os with
  | nil => exact .nil
  | cons o os ih => exact (Balanced.nil.around o).append ih

end Balanced

/-- A life from its beginning to its end takes nothing that it does not give back. -/
theorem balanced_of_asked {a : Address} {os : List O} {k : Nat} {xs : List (Request O)}
    (h : Asked a (held os) 0 k xs) (systemExit : Option O) :
    Balanced (references (opening a systemExit ++ xs ++ closing a systemExit)) := by
  have hsplit : references (opening a systemExit ++ xs ++ closing a systemExit) =
      references (opening a systemExit) ++ held os ++ references (closing a systemExit) := by
    rw [references_append, references_append, h.references]
  rw [hsplit]
  cases systemExit with
  | none =>
    have hheld := Balanced.of_held os
    rw [← List.append_nil (held os)] at hheld
    exact hheld
  | some e => exact (Balanced.of_held os).around e

/-- So all lives that are over are balanced. -/
theorem Past.balanced {a : Address} {xs : List (Request O)} (h : Past a xs) :
    Balanced (references xs) := by
  induction h with
  | nil => exact .nil
  | life _ hxs ih =>
    rw [references_append]
    exact ih.append (balanced_of_asked hxs _)

end References

/-! ## Functions -/

/-- What can come later as long as an instance lives in a context, also in the midst of
    operations. -/
inductive Later (c : Conduct lib) (a : Address) :
    World (Recorded L O) → World (Recorded L O) → Prop
  | midst {w w' : World (Recorded L O)} (h : Midst w w') : Later c a w w'
  | step {on : Option Address} {w w' : World (Recorded L O)} {live live' : Living O}
      {x x' : Alive O} (hhistory : History c w live) (hstep : Step c on w live w' live')
      (hbefore : live a = some x) (hafter : live' a = some x') : Later c a w w'
  | trans {w w' w'' : World (Recorded L O)} (h : Later c a w w') (h' : Later c a w' w'') :
      Later c a w w''

/-- The functions that were filed stay where they are. -/
def Table.Files (t t' : Table) : Prop := ∃ fs, t'.natives = t.natives ++ fs

theorem Table.Extends.files {t t' : Table} (h : t.Extends t') : t.Files t' := by
  obtain ⟨fs, rfl⟩ := h
  exact ⟨fs, rfl⟩

theorem Table.Files.trans {t t' t'' : Table} (h : t.Files t') (h' : t'.Files t'') :
    t.Files t'' := by
  obtain ⟨fs, hfs⟩ := h
  obtain ⟨gs, hgs⟩ := h'
  exact ⟨fs ++ gs, by rw [hgs, hfs, List.append_assoc]⟩

/-- An operation after which an instance still lives keeps the functions in its table. -/
theorem Step.files {on : Option Address} {w w' : World (Recorded L O)} {live live' : Living O}
    {a : Address} {x x' : Alive O} (hsound : Sound w live) (hstep : Step c on w live w' live')
    (hbefore : live a = some x) (hafter : live' a = some x') {t : Table}
    (ht : w.1.tables a = some t) : ∃ t', w'.1.tables a = some t' ∧ t.Files t' := by
  obtain ⟨_, hturned⟩ := hstep.turned hsound
  -- A step on another context leaves the table; one on this context only adds to what is filed.
  by_cases hon : on = some a
  · cases hstep with
    | created hfresh hrun =>
      obtain rfl := Option.some.inj hon
      cases hbefore.symm.trans hfresh
    | refused hrun => cases hon
    | @registered _ _ _ x m hx hrun =>
      obtain rfl := Option.some.inj hon
      rw [addModule_apply c x.inst ht] at hrun
      split at hrun
      · cases hrun
        exact ⟨_, w.1.tables.bind_self _ _, [], (List.append_nil _).symm⟩
      · cases hrun
    | @rejected _ _ _ x m e hx hrun =>
      obtain rfl := Option.some.inj hon
      rw [addModule_apply c x.inst ht] at hrun
      split at hrun
      · cases hrun
      · cases hrun
        exact ⟨t, ht, (Table.Extends.refl t).files⟩
    | served hx hrun =>
      obtain ⟨os, hgrows⟩ := hrun.grows
      obtain ⟨t', ht', hext⟩ := hgrows.midst.extends ht
      exact ⟨t', ht', hext.files⟩
    | dropped hx hrun =>
      obtain rfl := Option.some.inj hon
      cases hafter.symm.trans (live.unbind_self _)
  · exact ⟨t, (hturned.tables a hon).trans ht, (Table.Extends.refl t).files⟩

/-- As long as the instance lives, the functions in its table stay at their tickets. -/
theorem Later.files {a : Address} {w w' : World (Recorded L O)} (h : Later c a w w') {t : Table}
    (ht : w.1.tables a = some t) : ∃ t', w'.1.tables a = some t' ∧ t.Files t' := by
  induction h generalizing t with
  | midst h =>
    obtain ⟨t', ht', hext⟩ := h.extends ht
    exact ⟨t', ht', hext.files⟩
  | step hhistory hstep hbefore hafter => exact hstep.files hhistory.sound hbefore hafter ht
  | trans _ _ ih ih' =>
    obtain ⟨t', ht', hfiles⟩ := ih ht
    obtain ⟨t'', ht'', hfiles'⟩ := ih' ht'
    exact ⟨t'', ht'', hfiles.trans hfiles'⟩

/-- Calling a function from the machine, with the first `count` of the arguments. -/
def calling (lib : Library L O) (a : Address) (f : Native Host) (args : List O) (count : Int) :
    Act L (Option O) := do
  match ← guarded (f ((args.take count.toNat).map lib.toValue)) with
  | some (.ok v) => onLibrary (lib.ofValue a v)
  | some (.error e) => onLibrary (lib.raise a e); return none
  | none =>
    onLibrary (lib.raiseNamed a "RuntimeError" "native function panicked")
    return none

/-- The function that is called whenever the machine calls an object that carries a ticket. -/
structure Filed (lib : Library L O) (a : Address) (ticket : Ticket) (f : Native Host)
    (w : World (Recorded L O)) : Prop where
  native : native a ticket w = .ok (f, w)
  invoke : ∀ l args count, lib.functionTicket a w.1.library.inner = (some ticket, l) →
    invoke lib.recorded a args count w =
      calling lib.recorded a f args count (w.asked l [.functionTicket a (some ticket)])

/-- The function at the place of a ticket is the one that the ticket leads to. -/
theorem native_apply {a : Address} {w : World L} {t : Table} (ht : w.1.tables a = some t)
    {ticket : Ticket} {f : Native Host} (hf : t.natives[ticket]? = some f) :
    native a ticket w = .ok (f, w) := by
  have htable : table? a w = .ok (some t, w) := table?_of_eq ht
  rw [native, Run.bind_of_ok htable, Option.bind_some, hf]
  rfl

/-- So a function in the table is filed under the ticket of its place. -/
theorem filed_of_table {a : Address} {w : World (Recorded L O)} {t : Table}
    (ht : w.1.tables a = some t) {ticket : Ticket} {f : Native Host}
    (hf : t.natives[ticket]? = some f) : Filed lib a ticket f w where
  native := native_apply ht hf
  invoke l args count hticket := by
    have hasked : onLibrary (lib.recorded.functionTicket a) w =
        .ok (some ticket, w.asked l [.functionTicket a (some ticket)]) :=
      onLibrary_record_of_eq hticket
    have hnative : Embedded.native a ticket (w.asked l [.functionTicket a (some ticket)]) =
        .ok (f, w.asked l [.functionTicket a (some ticket)]) :=
      native_apply (w := w.asked l _) ht hf
    exact (Run.bind_of_ok hasked).trans (Run.bind_of_ok hnative)

/-- A function that was bound is filed under the ticket of its object from then on. -/
theorem filed_of_bound {a : Address} {v v' : World (Recorded L O)} {t : Table}
    (ht : v.1.tables a = some t) {name : String} {f : Native Host}
    (hrun : bindFunction lib.recorded a name f v = .ok (true, v')) :
    ∃ ticket o, v'.log = v.log ++ [.newFunction a ticket name (some o), .setGlobal a name o] ∧
      ∀ u, Later c a v' u → Filed lib a ticket f u := by
  rw [bindFunction_apply ht] at hrun
  split at hrun
  · cases hrun
  · split at hrun
    · cases hrun
    next o l hnew =>
      cases hrun
      refine ⟨t.natives.length, o, rfl, fun u hu => ?_⟩
      obtain ⟨t', ht', fs, hfs⟩ := hu.files (v.1.tables.bind_self a _)
      refine filed_of_table ht' ?_
      rw [hfs, List.getElem?_append_left (by simp), List.getElem?_concat_length]

/-! ## The discipline -/

/-- A life that goes on would be over after letting go. -/
theorem Sound.past {w : World (Recorded L O)} {live : Living O} (h : Sound w live) {a : Address}
    {x : Alive O} (hx : live a = some x) :
    Past a (requestsOn a w.log ++ closing a x.inst.systemExit) := by
  obtain ⟨t, past, xs, os, _, hlog, hpast, hlives⟩ := h.alive hx
  rw [hlog, List.append_assoc]
  exact .life hpast hlives.asked

theorem references_mono {p log : List (Request O)} (h : p <+: log) (a : Address) :
    references (requestsOn a p) <+: references (requestsOn a log) :=
  (h.filter _).filterMap _

section Discipline

variable [DecidableEq O]

/-- The references and contexts that are held at a time in a history, and what becomes of them. -/
structure Disciplined (c : Conduct lib) (w : World (Recorded L O)) (live : Living O) : Prop where
  /-- An object is never given back that was not taken before. -/
  taken : ∀ a o p, p <+: w.log → 0 ≤ outstanding o (references (requestsOn a p))
  /-- Of a context that was destroyed, everything taken was given back. -/
  released : ∀ a o, live a = none → outstanding o (references (requestsOn a w.log)) = 0
  /-- Between operations, of a live context only the class `SystemExit` is held. -/
  holding : ∀ a x o, live a = some x → outstanding o (references (requestsOn a w.log)) =
    if x.inst.systemExit = some o then 1 else 0
  /-- Every context has one life, and nothing is asked of it before or after. -/
  lives : Sound w live
  /-- Letting go of an instance gives its reference back, and then destroys the context. -/
  drop : ∀ a x, live a = some x → ∃ w', c.machine.drop x.inst w = .ok ((), w') ∧
    w'.log = w.log ++ closing a x.inst.systemExit ∧ w'.1.tables a = none
  /-- An instance that cannot be created leaves nothing behind. -/
  refused : ∀ config e w', c.machine.create config w = .ok (.error e, w') →
    e = .createFailed ∧ w'.log = w.log ++ [.createContext none] ∧ w'.1.tables = w.1.tables
  /-- Whenever a function is bound, also in the midst of an operation, it is filed from then on
      under the ticket of its object. -/
  filed : ∀ a x, live a = some x → ∀ v, Midst w v → ∀ name f v',
    bindFunction lib.recorded a name f v = .ok (true, v') →
    ∃ ticket o, v'.log = v.log ++ [.newFunction a ticket name (some o), .setGlobal a name o] ∧
      ∀ u, Later c a v' u → Filed lib a ticket f u

/-- At any time in a history of instances, whatever the code in them does, what was taken is given
    back before its context ends, and a function that was bound is filed as long as its context
    lives. -/
theorem lifetimes_disciplined {w : World (Recorded L O)} {live : Living O}
    (h : History c w live) : Disciplined c w live where
  taken a o p hp := by
    -- While the instance lives, what was asked is the beginning of a life that is balanced.
    cases hlive : live a with
    | none => exact (h.sound.dead hlive).2.balanced.held o _ (references_mono hp a)
    | some x =>
      refine (h.sound.past hlive).balanced.held o _ ((references_mono hp a).trans ?_)
      rw [references_append]
      exact List.prefix_append _ _
  released a o ha := (h.sound.dead ha).2.balanced.even o
  holding a x o hx := by
    have heven := (h.sound.past hx).balanced.even o
    rw [references_append, outstanding_append, outstanding_closing] at heven
    by_cases he : x.inst.systemExit = some o
    · rw [if_pos he] at heven ⊢
      omega
    · rw [if_neg he] at heven ⊢
      omega
  lives := h.sound
  drop a x hx := by
    obtain ⟨t, past, xs, os, _, hlog, hpast, hlives⟩ := h.sound.alive hx
    obtain rfl := hlives.address
    obtain ⟨l, hrun⟩ := drop_apply c x.inst w
    exact ⟨_, hrun, rfl, w.1.tables.unbind_self _⟩
  refused config e w' hrun := by
    obtain ⟨l, happly⟩ | ⟨i, l, happly⟩ := create_apply c config w
    · cases happly.symm.trans hrun
      exact ⟨rfl, rfl, rfl⟩
    · cases happly.symm.trans hrun
  filed a x hx v hv name f v' hrun := by
    obtain ⟨t, _, _, _, ht, _, _, _⟩ := h.sound.alive hx
    obtain ⟨t', ht', _⟩ := hv.extends ht
    exact filed_of_bound ht' hrun

end Discipline

/-- A context in which a function was bound, and then an expression was run and its value shown. -/
theorem lifetimes_disciplined_shown : ∃ w live, History ones w live ∧
    references (requestsOn 0 w.log) =
      [.taken (.exceptionClass "SystemExit"), .taken (.int 1), .given (.int 1)] ∧
    Disciplined ones w live := by
  have first : History ones _ _ := .first {} {}
  have created := first.step
    (.created rfl (show ones.machine.create {} _ = .ok (.ok (numbered 0), _) from rfl))
  have bound := created.step (.served (x := ⟨numbered 0, []⟩) rfl
    (.bindGlobal (show ones.machine.bindGlobal (numbered 0) "f" (fun _ => pure .none) _ =
      .ok (.ok (), _) from rfl)))
  have h := bound.step (.served (x := ⟨numbered 0, []⟩) rfl
    (.evaluate (show ones.machine.evaluate (numbered 0) "1" _ = .ok (_, _) from rfl)))
  exact ⟨_, _, h, rfl, lifetimes_disciplined h⟩

end LedBoard.Embedded
