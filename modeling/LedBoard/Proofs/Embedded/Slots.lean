import LedBoard.Proofs.Embedded.History

/-!
# Loaders and modules

The machine knows a module by one of a few loaders, the same for all contexts; which module a
loader loads is up to the table of the context that it runs on. The modules that were registered
on a live context are in its table, each at the place of its loader, and no operation on another
context changes that.

* `tables_follow_registrations`: the modules in the tables, at any time in a history.
-/

namespace LedBoard.Embedded

variable {L O : Type} {lib : Library L O} {c : Conduct lib}

/-- Loading a module: its functions are bound, then its imports are imported. -/
def loading (lib : Library L O) (imp : Address → String → Act L (Option O)) (a : Address)
    (m : Module Host) : Act L Bool := do
  if ← bindFunctions lib a m.functions then importAll imp a m.imports
  else return false

/-- A loader loads the module at its place in the table. -/
theorem loadModule_apply (imp : Address → String → Act L (Option O)) {a : Address} {w : World L}
    {t : Table} (ht : w.1.tables a = some t) (slot : Slot) :
    loadModule lib imp a slot w =
      match t.modules[slot]? with
      | some m => loading lib imp a m w
      | none => .ok (false, w) := by
  have htable : table? a w = .ok (some t, w) := table?_of_eq ht
  rw [loadModule, Run.bind_of_ok htable, Option.bind_some]
  cases t.modules[slot]? with
  | none => rfl
  | some m => rfl

/-- How a context serves the instance that lives in it. -/
structure Orderly (c : Conduct lib) (w : World (Recorded L O)) (a : Address) (x : Alive O) :
    Prop where
  address : x.inst.address = a
  slots : x.modules.length ≤ loaderSlots
  /-- A module is registered, under the next loader, just if its name can be handed over and a
      loader is left; otherwise nothing is asked, and nothing changes. -/
  register : ∀ m : Module Host,
    if Text.holdsNul m.name = false ∧ x.modules.length < loaderSlots then
      ∃ w', c.machine.addModule x.inst m w = .ok (.ok (), w') ∧
        w'.log = w.log ++ [.registerModule a m.name x.modules.length] ∧
        (w'.1.tables a).map (·.modules) = some (x.modules ++ [m])
    else c.machine.addModule x.inst m w = .ok (.error (.module m.name), w)
  /-- At any moment of an operation, a loader loads the module that was registered under it. -/
  load : ∀ v, Midst w v → ∀ imp slot, loadModule lib.recorded imp a slot v =
    match x.modules[slot]? with
    | some m => loading lib.recorded imp a m v
    | none => .ok (false, v)
  /-- A function that cannot be bound is not filed, and its name is not bound. -/
  unbound : ∀ name f e w', c.machine.bindGlobal x.inst name f w = .ok (.error e, w') →
    w'.1.tables = w.1.tables ∧
      (Text.holdsNul name = true ∧ w'.log = w.log ∨
        ∃ ticket, w'.log = w.log ++ [.newFunction a ticket name none])

theorem Lives.orderly {w : World (Recorded L O)} {a : Address} {x : Alive O} {t : Table}
    {xs : List (Request O)} {os : List O} (h : Lives a x t xs os) (ht : w.1.tables a = some t) :
    Orderly c w a x := by
  obtain rfl := h.address
  refine ⟨rfl, h.slots, fun m => ?_, fun v hv imp slot => ?_, fun name f e w' hrun => ?_⟩
  · rw [addModule_apply c x.inst ht, ← h.modules]
    split
    next => exact ⟨_, rfl, rfl, congrArg (Option.map _) (w.1.tables.bind_self _ _)⟩
    next => rfl
  · obtain ⟨_, hv, fs, rfl⟩ := hv.extends ht
    rw [loadModule_apply imp hv, ← h.modules]
  · rw [bindGlobal_apply c x.inst ht] at hrun
    split at hrun
    next hnul =>
      cases hrun
      exact ⟨rfl, .inl ⟨hnul, rfl⟩⟩
    next =>
      split at hrun
      · cases hrun
        exact ⟨rfl, .inr ⟨t.natives.length, rfl⟩⟩
      · cases hrun

/-- At any time, there are tables for the contexts of live instances only, with the modules that
    were registered on them, in order; and an operation about one context leaves the tables of
    all others as they are. -/
theorem tables_follow_registrations {w : World (Recorded L O)} {live : Living O}
    (h : History c w live) :
    (∀ a, (w.1.tables a).map (·.modules) = (live a).map (·.modules)) ∧
    (∀ a x, live a = some x → Orderly c w a x) ∧
    (∀ on w' live', Step c on w live w' live' →
      ∀ a, on ≠ some a → w'.1.tables a = w.1.tables a) := by
  refine ⟨fun a => ?_, fun a x hx => ?_, fun on w' live' hstep => ?_⟩
  · cases hlive : live a with
    | none => rw [(h.sound.dead hlive).1, Option.map_none, Option.map_none]
    | some x =>
      obtain ⟨t, _, _, _, ht, _, _, hlives⟩ := h.sound.alive hlive
      rw [ht, Option.map_some, Option.map_some, hlives.modules]
  · obtain ⟨t, _, _, _, ht, _, _, hlives⟩ := h.sound.alive hx
    exact hlives.orderly ht
  · obtain ⟨_, hturned⟩ := hstep.turned h.sound
    exact hturned.tables

/-- Two contexts, each with its module, the first of which is let go of. -/
theorem tables_follow_registrations_two : ∃ w live x, History ones w live ∧ live 1 = some x ∧
    x.modules.map (·.name) = ["n"] ∧ Orderly ones w 1 x ∧ w.1.tables 0 = none := by
  have first : History ones _ _ := .first {} {}
  have created := first.step
    (.created rfl (show ones.machine.create {} _ = .ok (.ok (numbered 0), _) from rfl))
  have registered := created.step (.registered (x := ⟨numbered 0, []⟩) rfl
    (show ones.machine.addModule (numbered 0) (blank "m") _ = .ok (.ok (), _) from rfl))
  have again := registered.step
    (.created rfl (show ones.machine.create {} _ = .ok (.ok (numbered 1), _) from rfl))
  have second := again.step (.registered (x := ⟨numbered 1, []⟩) rfl
    (show ones.machine.addModule (numbered 1) (blank "n") _ = .ok (.ok (), _) from rfl))
  have h := second.step (.dropped (x := ⟨numbered 0, [blank "m"]⟩) rfl
    (show ones.machine.drop (numbered 0) _ = .ok ((), _) from rfl))
  obtain ⟨htables, horderly, _⟩ := tables_follow_registrations h
  exact ⟨_, _, _, h, rfl, rfl, horderly 1 _ rfl, Option.map_eq_none_iff.1 (htables 0)⟩

end LedBoard.Embedded
