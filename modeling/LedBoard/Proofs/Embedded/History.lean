import LedBoard.ActionMachine.Library
import LedBoard.Proofs.Embedded.Operations

/-!
# Histories of instances

Instances are created, used and let go of in any order, any number of them at a time, as long as
the machine gives a context an address that no live context has; addresses of contexts that were
let go of can come again.

* `Step`, `History`: an operation on some instance, and what can be reached by operations;
* `Standing`: how it stands with an address. Either there is no table, and what was asked are
  whole lives of contexts, each from its creation to its end; or there is a table, which holds the
  modules that were registered, and one life goes on;
* `History.sound`: so it stands with every address at any time.
-/

namespace LedBoard.Embedded

variable {L O : Type} {lib : Library L O} {c : Conduct lib}

/-! ## Operations in any order -/

/-- An instance that was not let go of, and the modules that were registered on it. -/
structure Alive (O : Type) where
  inst : Instance O
  modules : List (Module Host) := []

/-- The instances that were not let go of, by the addresses of their contexts. -/
abbrev Living (O : Type) := Bindings Address (Alive O)

/-- An operation that returned, where `live` are the instances not let go of by their addresses,
    and `on` is the context that it is about. -/
inductive Step (c : Conduct lib) : (on : Option Address) → (w : World (Recorded L O)) →
    (live : Living O) → World (Recorded L O) → Living O → Prop
  | created {w w' : World (Recorded L O)} {live : Living O}
      {config : EngineConfig Host} {i : Instance O} (hfresh : live i.address = none)
      (h : c.machine.create config w = .ok (.ok i, w')) :
      Step c (some i.address) w live w' (live.bind i.address { inst := i })
  | refused {w w' : World (Recorded L O)} {live : Living O}
      {config : EngineConfig Host} {e : EngineError}
      (h : c.machine.create config w = .ok (.error e, w')) : Step c none w live w' live
  | registered {w w' : World (Recorded L O)} {live : Living O} {x : Alive O}
      {m : Module Host} (hx : live x.inst.address = some x)
      (h : c.machine.addModule x.inst m w = .ok (.ok (), w')) :
      Step c (some x.inst.address) w live w'
        (live.bind x.inst.address { x with modules := x.modules ++ [m] })
  | rejected {w w' : World (Recorded L O)} {live : Living O} {x : Alive O}
      {m : Module Host} {e : EngineError} (hx : live x.inst.address = some x)
      (h : c.machine.addModule x.inst m w = .ok (.error e, w')) :
      Step c (some x.inst.address) w live w' live
  | served {w w' : World (Recorded L O)} {live : Living O} {x : Alive O}
      (hx : live x.inst.address = some x) (h : Served c x.inst w w') :
      Step c (some x.inst.address) w live w' live
  | dropped {w w' : World (Recorded L O)} {live : Living O} {x : Alive O}
      (hx : live x.inst.address = some x) (h : c.machine.drop x.inst w = .ok ((), w')) :
      Step c (some x.inst.address) w live w' (live.unbind x.inst.address)

/-- What can be reached by operations, from a world where nothing was asked yet. -/
inductive History (c : Conduct lib) : World (Recorded L O) → Living O → Prop
  | first (inner : L) (h : Host) : History c ({ library := { inner } }, h) .empty
  | step {on : Option Address} {w w' : World (Recorded L O)} {live live' : Living O}
      (h : History c w live) (hstep : Step c on w live w' live') : History c w' live'

/-- Code of the action machine that calls nothing back, and by which every expression is one. -/
def ones : Conduct ActionMachine.library :=
  .steady _ (some (.int 1)) (some (.string (Text.encode "1")))

/-- The instance that the action machine makes with its context of this number. -/
def numbered (n : Nat) : Instance ActionMachine.Object := ⟨n, some (.exceptionClass "SystemExit")⟩

/-- A module of this name with nothing in it. -/
def blank (name : String) : Module Host := { name, functions := [], imports := [] }

/-- The action machine with one context, which has this table. -/
def oneContext (table : Table) (context : ActionMachine.Context) :
    World (Recorded ActionMachine.State ActionMachine.Object) :=
  ({ tables := Bindings.empty.bind 0 table,
     library := { inner := { contexts := Bindings.empty.bind 0 context } } }, {})

/-! ## How it stands with an address -/

/-- What was asked of contexts that lived one after the other at an address, each of which was
    destroyed. -/
inductive Past (a : Address) : List (Request O) → Prop
  | nil : Past a []
  | life {past xs : List (Request O)} {systemExit : Option O} {os : List O} {k : Nat}
      (h : Past a past) (hxs : Asked a (held os) 0 k xs) :
      Past a (past ++ (opening a systemExit ++ xs ++ closing a systemExit))

/-- An instance lives at an address: the table holds the modules that were registered on it, for
    which there are loaders enough, and its functions are those of which function objects were
    made; references to the objects `os` were held one after the other. -/
structure Lives (a : Address) (x : Alive O) (t : Table) (xs : List (Request O)) (os : List O) :
    Prop where
  address : x.inst.address = a
  modules : t.modules = x.modules
  slots : x.modules.length ≤ loaderSlots
  asked : Asked a (held os) 0 t.natives.length xs

/-- Growth makes a life longer. -/
theorem Lives.grown {a : Address} {x : Alive O} {t : Table} {xs ys : List (Request O)}
    {os ps : List O} (h : Lives a x t xs os) {fs : List (Native Host)}
    (hys : Asked a (held ps) t.natives.length fs.length ys) :
    Lives a x { t with natives := t.natives ++ fs } (xs ++ ys) (os ++ ps) where
  address := h.address
  modules := h.modules
  slots := h.slots
  asked := by
    rw [held, List.flatMap_append, List.length_append]
    rw [← Nat.zero_add t.natives.length] at hys
    exact h.asked.append hys

/-- So does registering a module for which a loader is left. -/
theorem Lives.registered {a : Address} {x : Alive O} {t : Table} {xs : List (Request O)}
    {os : List O} (h : Lives a x t xs os) {m : Module Host}
    (hslot : t.modules.length < loaderSlots) :
    Lives a { x with modules := x.modules ++ [m] } { t with modules := t.modules ++ [m] }
      (xs ++ [.registerModule a m.name t.modules.length]) os where
  address := h.address
  modules := congrArg (· ++ [m]) h.modules
  slots := by
    rw [List.length_append, ← h.modules]
    exact hslot
  asked := by
    have hasked := h.asked.append (Asked.plain (x := .registerModule a m.name t.modules.length)
      ⟨rfl, rfl, rfl⟩ (0 + t.natives.length))
    rw [List.append_nil] at hasked
    exact hasked

/-- There is a live context at an address just if there is a table; the list tells what was asked
    of all contexts there. -/
inductive Standing (a : Address) : Option (Alive O) → Option Table → List (Request O) → Prop
  | dead {past : List (Request O)} (h : Past a past) : Standing a none none past
  | alive {past xs : List (Request O)} {os : List O} {x : Alive O} {t : Table} (h : Past a past)
      (hlives : Lives a x t xs os) :
      Standing a (some x) (some t) (past ++ (opening a x.inst.systemExit ++ xs))

/-- So it stands with every address. -/
def Sound (w : World (Recorded L O)) (live : Living O) : Prop :=
  ∀ a, Standing a (live a) (w.1.tables a) (requestsOn a w.log)

theorem Sound.dead {w : World (Recorded L O)} {live : Living O} (h : Sound w live) {a : Address}
    (ha : live a = none) : w.1.tables a = none ∧ Past a (requestsOn a w.log) := by
  have hstands := h a
  rw [ha] at hstands
  generalize w.1.tables a = table, requestsOn a w.log = xs at hstands
  cases hstands with
  | dead hpast => exact ⟨rfl, hpast⟩

/-- Of a live context there is a table, and its present life follows those that are over. -/
theorem Sound.alive {w : World (Recorded L O)} {live : Living O} (h : Sound w live) {a : Address}
    {x : Alive O} (hx : live a = some x) :
    ∃ t past xs os, w.1.tables a = some t ∧
      requestsOn a w.log = past ++ (opening a x.inst.systemExit ++ xs) ∧
      Past a past ∧ Lives a x t xs os := by
  have hstands := h a
  rw [hx] at hstands
  generalize w.1.tables a = table, requestsOn a w.log = xs at hstands
  cases hstands with
  | alive hpast hlives => exact ⟨_, _, _, _, rfl, rfl, hpast, hlives⟩

theorem requestsOn_append (a : Address) (xs ys : List (Request O)) :
    requestsOn a (xs ++ ys) = requestsOn a xs ++ requestsOn a ys := List.filter_append ..

theorem requestsOn_of_about {a : Address} {on : Option Address} {xs : List (Request O)}
    (h : ∀ x ∈ xs, x.address? = on) : requestsOn a xs = if on = some a then xs else [] := by
  split
  next hon => exact List.filter_eq_self.2 fun x hx => decide_eq_true ((h x hx).trans hon)
  next hon => exact List.filter_eq_nil_iff.2 fun x hx hmem => hon (h x hx ▸ of_decide_eq_true hmem)

/-- A life begins with requests about the context itself. -/
theorem opening_about (a : Address) (systemExit : Option O) :
    ∀ x ∈ opening a systemExit, x.address? = some a := by
  cases systemExit <;> simp [opening, Request.address?, Request.within?]

/-- It ends with such requests. -/
theorem closing_about (a : Address) (systemExit : Option O) :
    ∀ x ∈ closing a systemExit, x.address? = some a := by
  cases systemExit <;> simp [closing, Request.address?, Request.within?]

theorem Asked.about {a : Address} {refs : List (Reference O)} {n k : Nat} {xs : List (Request O)}
    (h : Asked a refs n k xs) : ∀ x ∈ xs, x.address? = some a :=
  fun x hx => Request.address?_of_within (h.within x hx)

/-! ## What an operation does -/

/-- Something was asked that is about one context, or about none. All other contexts keep their
    tables and their instances, and it stands with this one as it should. -/
structure Turned (on : Option Address) (w : World (Recorded L O)) (live : Living O)
    (w' : World (Recorded L O)) (live' : Living O) (xs : List (Request O)) : Prop where
  log : w'.log = w.log ++ xs
  about : ∀ x ∈ xs, x.address? = on
  tables : ∀ a, on ≠ some a → w'.1.tables a = w.1.tables a
  live : ∀ a, on ≠ some a → live' a = live a
  own : ∀ a, on = some a → Standing a (live' a) (w'.1.tables a) (requestsOn a w.log ++ xs)

/-- The step of the invariant: what is done about one context changes the standing of this one only.
    -/
theorem Turned.sound {on : Option Address} {w w' : World (Recorded L O)} {live live' : Living O}
    {xs : List (Request O)} (h : Turned on w live w' live' xs) (hsound : Sound w live) :
    Sound w' live' := by
  intro a
  rw [h.log, requestsOn_append, requestsOn_of_about h.about]
  by_cases ha : on = some a
  · rw [if_pos ha]
    exact h.own a ha
  · rw [if_neg ha, List.append_nil, h.tables a ha, h.live a ha]
    exact hsound a

theorem ne_of_some_ne {a b : Address} (h : some a ≠ some b) : b ≠ a := fun hab => h (hab ▸ rfl)

section Turns

variable {w : World (Recorded L O)} {live : Living O} (h : Sound w live)

/-- Only something about no context was asked. -/
theorem Turned.of_none (inner : L) {xs : List (Request O)} (hxs : ∀ x ∈ xs, x.address? = none) :
    Turned none w live (w.asked inner xs) live xs where
  log := rfl
  about := hxs
  tables _ _ := rfl
  live _ _ := rfl
  own _ ha := nomatch ha

include h

/-- Creating an instance begins a life, at an address that no live one has. -/
theorem Sound.opened {i : Instance O} (hfresh : live i.address = none) (inner : L) :
    Turned (some i.address) w live (w.opened i inner) (live.bind i.address { inst := i })
      (opening i.address i.systemExit) where
  log := rfl
  about := opening_about _ _
  tables a ha := w.1.tables.bind_ne (ne_of_some_ne ha) _
  live a ha := live.bind_ne (ne_of_some_ne ha) _
  own := by
    rintro _ ⟨⟩
    have htable : (w.opened i inner).1.tables i.address = some {} := w.1.tables.bind_self _ _
    have hlives : Lives i.address ⟨i, []⟩ {} [] [] := ⟨rfl, rfl, Nat.zero_le _, .nil 0⟩
    have hstands := Standing.alive (h.dead hfresh).2 hlives
    rw [List.append_nil] at hstands
    rw [live.bind_self, htable]
    exact hstands

/-- Whatever makes a context grow goes on with its life. -/
theorem Sound.grown {x : Alive O} (hx : live x.inst.address = some x) {os : List O}
    {w' : World (Recorded L O)} (hgrows : Grows x.inst.address (held os) w w') :
    ∃ ys, Turned (some x.inst.address) w live w' live ys := by
  obtain ⟨t, past, xs, ps, ht, hlog, hpast, hlives⟩ := h.alive hx
  obtain ⟨fs, ys, ht', hlog', hys⟩ := hgrows.own t ht
  refine ⟨ys, hlog', hys.about, fun a ha => hgrows.others a (ne_of_some_ne ha), fun _ _ => rfl, ?_⟩
  rintro _ ⟨⟩
  rw [hx, ht', hlog, List.append_assoc, List.append_assoc]
  exact .alive hpast (hlives.grown hys)

/-- Registering a module goes on with the life of its context. -/
theorem Sound.registered {x : Alive O} (hx : live x.inst.address = some x) {t : Table}
    (ht : w.1.tables x.inst.address = some t) {m : Module Host}
    (hslot : t.modules.length < loaderSlots) (inner : L) :
    Turned (some x.inst.address) w live (w.registered x.inst.address t m inner)
      (live.bind x.inst.address { x with modules := x.modules ++ [m] })
      [.registerModule x.inst.address m.name t.modules.length] where
  log := rfl
  about := List.forall_mem_singleton.2 rfl
  tables a ha := w.1.tables.bind_ne (ne_of_some_ne ha) _
  live a ha := live.bind_ne (ne_of_some_ne ha) _
  own := by
    rintro _ ⟨⟩
    have htable : (w.registered x.inst.address t m inner).1.tables x.inst.address =
        some { t with modules := t.modules ++ [m] } := w.1.tables.bind_self _ _
    obtain ⟨t', past, xs, os, ht', hlog, hpast, hlives⟩ := h.alive hx
    obtain rfl := Option.some.inj (ht.symm.trans ht')
    rw [live.bind_self, htable, hlog, List.append_assoc, List.append_assoc]
    exact .alive hpast (hlives.registered hslot)

/-- Letting go of an instance ends the life of its context. -/
theorem Sound.closed {x : Alive O} (hx : live x.inst.address = some x) (inner : L) :
    Turned (some x.inst.address) w live (w.closed x.inst inner) (live.unbind x.inst.address)
      (closing x.inst.address x.inst.systemExit) where
  log := rfl
  about := closing_about _ _
  tables a ha := w.1.tables.unbind_ne (ne_of_some_ne ha)
  live a ha := live.unbind_ne (ne_of_some_ne ha)
  own := by
    rintro _ ⟨⟩
    have htable : (w.closed x.inst inner).1.tables x.inst.address = none :=
      w.1.tables.unbind_self _
    obtain ⟨t, past, xs, os, ht, hlog, hpast, hlives⟩ := h.alive hx
    rw [live.unbind_self, htable, hlog, List.append_assoc]
    exact .dead (.life hpast hlives.asked)

end Turns

/-- What a step does to the context it is about, and that it does nothing to others. -/
theorem Step.turned {on : Option Address} {w w' : World (Recorded L O)} {live live' : Living O}
    (h : Sound w live) (hstep : Step c on w live w' live') :
    ∃ xs, Turned on w live w' live' xs := by
  -- That an instance lives gives it a table, without which registering would be refused.
  cases hstep with
  | @created _ _ _ config i hfresh hrun =>
    obtain ⟨l, happly⟩ | ⟨i', l, happly⟩ := create_apply c config w
    · cases happly.symm.trans hrun
    · cases happly.symm.trans hrun
      exact ⟨_, h.opened hfresh l⟩
  | @refused _ _ _ config e hrun =>
    obtain ⟨l, happly⟩ | ⟨i', l, happly⟩ := create_apply c config w
    · cases happly.symm.trans hrun
      exact ⟨_, .of_none l (List.forall_mem_singleton.2 rfl)⟩
    · cases happly.symm.trans hrun
  | @registered _ _ _ x m hx hrun =>
    obtain ⟨t, past, xs, os, ht, hlog, hpast, hlives⟩ := h.alive hx
    rw [addModule_apply c x.inst ht] at hrun
    split at hrun
    next hslot =>
      cases hrun
      exact ⟨_, h.registered hx ht hslot.2 _⟩
    next => cases hrun
  | @rejected _ _ _ x m e hx hrun =>
    obtain ⟨t, past, xs, os, ht, hlog, hpast, hlives⟩ := h.alive hx
    rw [addModule_apply c x.inst ht] at hrun
    split at hrun
    next => cases hrun
    next =>
      cases hrun
      have hgrows : Grows x.inst.address (held []) w w := .refl w
      exact h.grown hx hgrows
  | @served _ _ _ x hx hrun =>
    obtain ⟨os, hgrows⟩ := hrun.grows
    exact h.grown hx hgrows
  | @dropped _ _ _ x hx hrun =>
    obtain ⟨l, happly⟩ := drop_apply c x.inst w
    cases happly.symm.trans hrun
    exact ⟨_, h.closed hx l⟩

/-- By induction on the steps: at any time in a history every context stands as it should. -/
theorem History.sound {w : World (Recorded L O)} {live : Living O} (h : History c w live) :
    Sound w live := by
  induction h with
  | first inner h => exact fun a => .dead .nil
  | step _ hstep ih =>
    obtain ⟨xs, hturned⟩ := hstep.turned ih
    exact hturned.sound ih

/-! ## In the midst of operations -/

/-- A table keeps its modules, and functions are only filed behind those that it has. -/
def Table.Extends (t t' : Table) : Prop := ∃ fs, t' = { t with natives := t.natives ++ fs }

theorem Table.Extends.refl (t : Table) : t.Extends t := ⟨[], by rw [List.append_nil]⟩

theorem Table.Extends.trans {t t' t'' : Table} (h : t.Extends t') (h' : t'.Extends t'') :
    t.Extends t'' := by
  obtain ⟨fs, rfl⟩ := h
  obtain ⟨gs, rfl⟩ := h'
  exact ⟨fs ++ gs, by rw [List.append_assoc]⟩

/-- In the midst of operations a live table loses nothing and gains functions only. -/
theorem Midst.extends {w w' : World (Recorded L O)} (h : Midst w w') {b : Address} {t : Table}
    (ht : w.1.tables b = some t) : ∃ t', w'.1.tables b = some t' ∧ t.Extends t' := by
  induction h generalizing t with
  | refl w => exact ⟨t, ht, .refl t⟩
  | trans _ _ ih ih' =>
    obtain ⟨t', ht', hext⟩ := ih ht
    obtain ⟨t'', ht'', hext'⟩ := ih' ht'
    exact ⟨t'', ht'', hext.trans hext'⟩
  | asked w inner xs => exact ⟨t, ht, .refl t⟩
  | host w h => exact ⟨t, ht, .refl t⟩
  | @filed w a t₁ ht₁ f =>
    by_cases hb : b = a
    · subst hb
      obtain rfl := Option.some.inj (ht₁.symm.trans ht)
      exact ⟨_, w.withTable_self b _, [f], rfl⟩
    · exact ⟨t, (w.withTable_ne hb _).trans ht, .refl t⟩

end LedBoard.Embedded
