import LedBoard.Proofs.Embedded.Slots
import LedBoard.Proofs.Module.Building

/-!
# The order of a load

A load asks a machine for one function object for each function of the module, in the order of
their names, and binds each object before it asks for the next; then it asks for the imports in
their order. It ends with the first name that cannot be handed over and the first answer that is
nothing. What the machine does when it is asked for an import is its own affair: it may load
other modules and the same one again, or anything else. Nothing of that changes what the load
asks for next, since the module was read before.

* `Through`: how far a list of names was gone through;
* `Binds`: what the functions of a module leave behind that were bound;
* `Imports`: imports one after the other, and what the machine does in between;
* `load_in_order`: what every load does.
-/

namespace LedBoard.Embedded

variable {L O : Type} {lib : Library L O} {a : Address}

/-! ## Names that are gone through -/

/-- Names were handed over in order, and answered, up to the first that cannot be handed over or
    was answered with nothing. The last place tells whether there was no such name. -/
inductive Through : List String → List (String × Option O) → Bool → Prop
  | done : Through [] [] true
  | nul {name : String} {rest : List String} (h : Text.holdsNul name = true) :
      Through (name :: rest) [] false
  | nothing {name : String} {rest : List String} (h : Text.holdsNul name = false) :
      Through (name :: rest) [(name, none)] false
  | next {name : String} {rest : List String} {asked : List (String × Option O)} {ok : Bool}
      (h : Text.holdsNul name = false) (o : O) (hrest : Through rest asked ok) :
      Through (name :: rest) ((name, some o) :: asked) ok

/-- The objects among the answers. -/
def objects (asked : List (String × Option O)) : List O := asked.filterMap (·.2)

/-! ## Functions -/

/-- The requests by which functions are bound, from a ticket on: each time for an object, and if
    there is one, to bind it. -/
def bindingRequests (a : Address) (n : Ticket) (made : List (String × Option O)) :
    List (Request O) :=
  (made.zipIdx n).flatMap fun ((name, o), ticket) =>
    .newFunction a ticket name o :: (o.map (.setGlobal a name)).toList

/-- Functions were bound, for which these objects were made. -/
structure Binds (a : Address) (t : Table) (fs : List (String × Native Host))
    (made : List (String × Option O)) (w w' : World (Recorded L O)) : Prop where
  log : w'.log = w.log ++ bindingRequests a t.natives.length made
  /-- For every object there is a function filed, under the ticket that the object carries. -/
  own : w'.1.tables a =
    some { t with natives := t.natives ++ (fs.take (objects made).length).map (·.2) }
  others : ∀ b, b ≠ a → w'.1.tables b = w.1.tables b
  host : w'.2 = w.2

namespace Binds

variable {t : Table} {fs : List (String × Native Host)} {made : List (String × Option O)}
  {w w' : World (Recorded L O)}

/-- Where no object was made, nothing is filed. -/
theorem of_asked (ht : w.1.tables a = some t) (hmade : objects made = []) (inner : L) :
    Binds a t fs made w (w.asked inner (bindingRequests a t.natives.length made)) where
  log := rfl
  own := by
    rw [hmade, List.length_nil, List.take_zero, List.map_nil, List.append_nil]
    exact ht
  others _ _ := rfl
  host := rfl

/-- One function is bound before the others. -/
theorem next {name : String} {f : Native Host} {o : O} {inner : L}
    (h : Binds a { t with natives := t.natives ++ [f] } fs made (w.bound a t name f o inner) w') :
    Binds a t ((name, f) :: fs) ((name, some o) :: made) w w' where
  log := by
    have hlength : (t.natives ++ [f]).length = t.natives.length + 1 := List.length_append
    rw [h.log, hlength]
    exact List.append_assoc ..
  own := by
    have hcount : (objects ((name, some o) :: made)).length = (objects made).length + 1 := rfl
    rw [h.own, hcount, List.take_succ_cons, List.map_cons, List.append_assoc]
    rfl
  others b hb := (h.others b hb).trans (World.withTable_ne _ hb _)
  host := h.host

end Binds

variable (lib) in
/-- Functions are bound in order, whatever the machine answers. -/
theorem bindFunctions_apply {w : World (Recorded L O)} {t : Table} (ht : w.1.tables a = some t)
    (fs : List (String × Native Host)) :
    ∃ made ok w', bindFunctions lib.recorded a fs w = .ok (ok, w') ∧
      Through (fs.map (·.1)) made ok ∧ Binds a t fs made w w' := by
  -- By induction on the functions; each is bound in the table that those before it have left.
  induction fs generalizing w t with
  | nil =>
    refine ⟨[], true, w.asked w.1.library.inner [], ?_, .done, .of_asked ht rfl _⟩
    rw [World.asked_nil]
    rfl
  | cons x rest ih =>
    obtain ⟨name, f⟩ := x
    have hbind : bindFunction lib.recorded a name f w = _ := bindFunction_apply ht name f
    rw [bindFunctions]
    cases hnul : Text.holdsNul name with
    | true =>
      rw [hnul, if_pos rfl] at hbind
      refine ⟨[], false, w.asked w.1.library.inner [], ?_, .nul hnul, .of_asked ht rfl _⟩
      rw [World.asked_nil]
      exact Run.bind_of_ok hbind
    | false =>
      rw [hnul, if_neg Bool.false_ne_true] at hbind
      cases hnew : lib.newFunction a t.natives.length name w.1.library.inner with
      | mk answer l =>
        rw [hnew] at hbind
        cases answer with
        | none =>
          exact ⟨[(name, none)], false, _, Run.bind_of_ok hbind, .nothing hnul,
            .of_asked ht rfl l⟩
        | some o =>
          obtain ⟨made, ok, w', hrun, hthrough, hbinds⟩ :=
            ih (w := w.bound a t name f o (lib.setGlobal a name o l).2) (World.withTable_self _ a _)
          exact ⟨(name, some o) :: made, ok, w', (Run.bind_of_ok hbind).trans hrun,
            .next hnul o hthrough, hbinds.next⟩

/-! ## Imports -/

section Imports

variable {imp : Address → String → Act (Recorded L O) (Option O)}

/-- The world where the machine is asked to import a module. -/
def World.importing (w : World (Recorded L O)) (a : Address) (name : String) :
    World (Recorded L O) :=
  w.asked w.1.library.inner [.importModule a name]

/-- Modules were asked for one after the other, with these answers; each time the machine did
    what it does to import. -/
inductive Imports (imp : Address → String → Act (Recorded L O) (Option O)) (a : Address) :
    World (Recorded L O) → List (String × Option O) → World (Recorded L O) → Prop
  | nil (w : World (Recorded L O)) : Imports imp a w [] w
  | cons {w w' w'' : World (Recorded L O)} {name : String} {o : Option O}
      {rest : List (String × Option O)} (h : imp a name (w.importing a name) = .ok (o, w'))
      (hrest : Imports imp a w' rest w'') : Imports imp a w ((name, o) :: rest) w''

/-- How the imports of a module end. -/
inductive Imported (imp : Address → String → Act (Recorded L O) (Option O)) (a : Address)
    (names : List String) (w : World (Recorded L O)) :
    Except Crash (Bool × World (Recorded L O)) → Prop
  | returned {asked : List (String × Option O)} {w' : World (Recorded L O)} {ok : Bool}
      (h : Imports imp a w asked w') (hthrough : Through names asked ok) :
      Imported imp a names w (.ok (ok, w'))
  /-- An import crashed, before which all was well. -/
  | crashed {asked : List (String × Option O)} {v : World (Recorded L O)} {name : String}
      {rest : List String} {crash : Crash} (h : Imports imp a w asked v)
      (hthrough : Through (asked.map (·.1)) asked true)
      (hnames : names = asked.map (·.1) ++ name :: rest)
      (hcrash : imp a name (v.importing a name) = .error crash) :
      Imported imp a names w (.error crash)

theorem importAll_ends (names : List String) (w : World (Recorded L O)) :
    Imported imp a names w (importAll (requesting imp) a names w) := by
  induction names generalizing w with
  | nil => exact .returned (.nil w) .done
  | cons name rest ih =>
    rw [importAll]
    cases hnul : Text.holdsNul name with
    | true => exact .returned (.nil w) (.nul hnul)
    | false =>
      have hask : requesting imp a name w = imp a name (w.importing a name) := rfl
      rw [if_neg Bool.false_ne_true, Run.bind_apply, hask]
      cases himp : imp a name (w.importing a name) with
      | error crash => exact .crashed (.nil w) .done rfl himp
      | ok x =>
        obtain ⟨o, w'⟩ := x
        cases o with
        | none => exact .returned (.cons himp (.nil w')) (.nothing hnul)
        | some o =>
          have hrest := ih w'
          change Imported imp a (name :: rest) w (importAll (requesting imp) a rest w')
          generalize importAll (requesting imp) a rest w' = ending at hrest
          cases hrest with
          | returned h hthrough => exact .returned (.cons himp h) (.next hnul o hthrough)
          | crashed h hthrough hnames hcrash =>
            exact .crashed (.cons himp h) (.next hnul o hthrough) (congrArg _ hnames) hcrash

end Imports

/-! ## Loads -/

/-- A load of a module that was built asks for its functions in the order of their names, each
    once, and then for its imports, until something fails; whatever the machine does to import,
    the functions were bound before. If it only runs code, what was bound stays. A loader without
    a module asks for nothing. -/
theorem load_in_order (w : World (Recorded L O)) (a : Address) (slot : Slot) :
    ((w.1.tables a).bind (·.modules[slot]?) = none →
      ∀ imp, loadModule lib.recorded (requesting imp) a slot w = .ok (false, w)) ∧
    ∀ t m, w.1.tables a = some t → t.modules[slot]? = some m → m.Built →
      (m.functionNames.Pairwise fun x y => Text.encode x < Text.encode y) ∧
      ∃ made bound v, Through m.functionNames made bound ∧ Binds a t m.functions made w v ∧
        ∀ imp,
          (if bound then
            Imported imp a m.imports v (loadModule lib.recorded (requesting imp) a slot w)
          else loadModule lib.recorded (requesting imp) a slot w = .ok (false, v)) ∧
          ((∀ name u r u', imp a name u = .ok (r, u') → Within lib a u u') →
            ∀ r w', loadModule lib.recorded (requesting imp) a slot w = .ok (r, w') →
              Grows a [] v w') := by
  refine ⟨fun hnone imp => ?_, fun t m ht hm hbuilt => ⟨hbuilt.increasing, ?_⟩⟩
  · have htable : table? a w = .ok (w.1.tables a, w) := rfl
    rw [loadModule, Run.bind_of_ok htable, hnone]
    rfl
  · obtain ⟨made, bound, v, hrun, hthrough, hbinds⟩ := bindFunctions_apply lib ht m.functions
    -- The functions are bound before any import is asked for, so their part is the same for all.
    have hload imp : loadModule lib.recorded (requesting imp) a slot w =
        if bound then importAll (requesting imp) a m.imports v else .ok (false, v) := by
      rw [loadModule_apply (requesting imp) ht, hm]
      refine (Run.bind_of_ok hrun).trans ?_
      cases bound <;> rfl
    refine ⟨made, bound, v, hthrough, hbinds, fun imp => ?_⟩
    rw [hload]
    cases bound with
    | true =>
      exact ⟨importAll_ends m.imports v, fun himp r w' h =>
        Adds.importAll (fun name u r u' hu => (himp name u r u' hu).grows) _ _ _ _ h⟩
    | false =>
      refine ⟨rfl, ?_⟩
      rintro - _ _ ⟨⟩
      exact .refl v

/-- A module with two functions, which imports itself. -/
def itself : Module Host :=
  (Module.empty "m").function "é" (fun _ => pure .none) |>.function "e" (fun _ => pure .none)
    |>.addImport "m"

/-- An import that loads the first module, which then imports nothing more. -/
def loadingAgain (a : Address) (_ : String) :
    Act (Recorded ActionMachine.State ActionMachine.Object) (Option ActionMachine.Object) := do
  let loaded ← loadModule ActionMachine.library.recorded
    (requesting fun _ _ => pure (some .none)) a 0
  return if loaded then some .none else none

/-- A load within a load of the same module. -/
theorem load_in_order_within : ∃ made v w' asked,
    loadModule ActionMachine.library.recorded (requesting loadingAgain) 0 0
      (oneContext { modules := [itself] } { print := none }) = .ok (true, w') ∧
    Through ["e", "é"] made true ∧
    Binds 0 { modules := [itself] } itself.functions made
      (oneContext { modules := [itself] } { print := none }) v ∧
    Imports loadingAgain 0 v asked w' ∧ Through ["m"] asked true := by
  have hbuilt : itself.Built :=
    (((Module.Built.empty "m").function "é" _).function "e" _).addImport "m"
  have hreturned : (loadModule ActionMachine.library.recorded (requesting loadingAgain) 0 0
      (oneContext { modules := [itself] } { print := none })).toOption.map (·.1) = some true := by
    decide +kernel
  obtain ⟨-, made, bound, v, hthrough, hbinds, himports⟩ :=
    (load_in_order (oneContext { modules := [itself] } { print := none }) 0 0).2
      { modules := [itself] } itself rfl rfl hbuilt
  have hends := (himports loadingAgain).1
  generalize loadModule ActionMachine.library.recorded (requesting loadingAgain) 0 0
    (oneContext { modules := [itself] } { print := none }) = ending at hreturned hends ⊢
  cases bound with
  | false =>
    obtain rfl : ending = .ok (false, v) := hends
    cases hreturned
  | true =>
    cases hends with
    | returned h hasked =>
      obtain rfl := Option.some.inj hreturned
      exact ⟨made, v, _, _, rfl, hthrough, hbinds, h, hasked⟩
    | crashed => cases hreturned

end LedBoard.Embedded
