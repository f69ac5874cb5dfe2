import LedBoard.Proofs.Embedded.Growth

/-!
# What the operations of an instance do

An instance begins with a context, a reference to the class `SystemExit` and an empty table, and
it ends by giving the reference back, destroying the context and taking the table away. In
between, only registering a module changes the modules of its table; everything else makes the
context grow.

* `opening`, `closing`: what is asked of a context at its beginning and at its end;
* `create_apply`, `drop_apply`, `addModule_apply`, `bindGlobal_apply`: what these operations do;
* `Operation.grows`: the growth by any of the other operations.
-/

namespace LedBoard.Embedded

variable {L O : Type} {lib : Library L O}

/-! ## Beginning and end -/

/-- What is asked at the beginning of a context. -/
def opening (a : Address) (systemExit : Option O) : List (Request O) :=
  [.createContext (some a), .getGlobal a "SystemExit" systemExit] ++
    systemExit.toList.map (.incRef a)

/-- What is asked at the end of a context. -/
def closing (a : Address) (systemExit : Option O) : List (Request O) :=
  systemExit.toList.map (.decRef a) ++ [.destroyContext a]

namespace World

/-- The world after a context was created for an instance. -/
def opened (w : World (Recorded L O)) (i : Instance O) (inner : L) : World (Recorded L O) :=
  (((w.asked inner (opening i.address i.systemExit)).withTable i.address (some {})).1,
    w.2.emit .contextCreated)

/-- The world after the context of an instance was destroyed. -/
def closed (w : World (Recorded L O)) (i : Instance O) (inner : L) : World (Recorded L O) :=
  (((w.asked inner (closing i.address i.systemExit)).withTable i.address none).1,
    w.2.emit .contextDestroyed)

/-- The world after a module was registered in a context that has this table. -/
def registered (w : World (Recorded L O)) (a : Address) (t : Table) (m : Module Host) (inner : L) :
    World (Recorded L O) :=
  (w.asked inner [.registerModule a m.name t.modules.length]).withTable a
    (some { t with modules := t.modules ++ [m] })

end World

variable (c : Conduct lib)

/-- Creating an instance fails if there is no context, and then nothing else is asked. -/
theorem create_apply (config : EngineConfig Host) (w : World (Recorded L O)) :
    (∃ l, c.machine.create config w = .ok (.error .createFailed, w.asked l [.createContext none])) ∨
      ∃ i l, c.machine.create config w = .ok (.ok i, w.opened i l) := by
  cases hcreate : lib.createContext (lib.contextConfig config) w.1.library.inner with
  | mk answer l =>
    have hasked : onLibrary (lib.recorded.createContext (lib.contextConfig config)) w =
        .ok (answer, w.asked l [.createContext answer]) :=
      onLibrary_record_of_eq hcreate
    cases answer with
    | none => exact .inl ⟨l, Run.bind_of_ok hasked⟩
    | some a =>
      cases hclass : lib.getGlobal a "SystemExit" l with
      | mk systemExit l' =>
        have hfound : onLibrary (lib.recorded.getGlobal a "SystemExit")
            (w.asked l [.createContext (some a)]) = .ok (systemExit, w.asked l'
              [.createContext (some a), .getGlobal a "SystemExit" systemExit]) := by
          refine (onLibrary_record_asked _ _ w l _).trans ?_
          rw [hclass]
          rfl
        -- A reference is taken only if there is such a class.
        cases systemExit with
        | none =>
          refine .inr ⟨⟨a, none⟩, l', (Run.bind_of_ok hasked).trans ?_⟩
          refine (Run.bind_of_ok hfound).trans ?_
          rfl
        | some e =>
          have htaken : onLibrary (lib.recorded.incRef a e) (w.asked l'
              [.createContext (some a), .getGlobal a "SystemExit" (some e)]) =
              .ok ((), w.asked (lib.incRef a e l').2 (opening a (some e))) :=
            onLibrary_record_asked (fun _ => .incRef a e) _ w l' _
          refine .inr ⟨⟨a, some e⟩, (lib.incRef a e l').2, (Run.bind_of_ok hasked).trans ?_⟩
          refine (Run.bind_of_ok hfound).trans ?_
          refine (Run.bind_of_ok htaken).trans ?_
          rfl

/-- Letting go of an instance gives its reference back first, and always returns. -/
theorem drop_apply (i : Instance O) (w : World (Recorded L O)) :
    ∃ l, c.machine.drop i w = .ok ((), w.closed i l) := by
  obtain ⟨a, systemExit⟩ := i
  cases systemExit with
  | none => exact ⟨_, rfl⟩
  | some e =>
    have hgiven : onLibrary (lib.recorded.decRef a e) w =
        .ok ((), w.asked (lib.decRef a e w.1.library.inner).2 [.decRef a e]) := rfl
    have hdestroyed : onLibrary (lib.recorded.destroyContext a)
        (w.asked (lib.decRef a e w.1.library.inner).2 [.decRef a e]) =
        .ok ((), w.asked (lib.destroyContext a (lib.decRef a e w.1.library.inner).2).2
          (closing a (some e))) :=
      onLibrary_record_asked (fun _ => .destroyContext a) _ w _ _
    refine ⟨(lib.destroyContext a (lib.decRef a e w.1.library.inner).2).2, ?_⟩
    refine (Run.bind_of_ok hgiven).trans ?_
    refine (Run.bind_of_ok hdestroyed).trans ?_
    rfl

/-! ## Functions and modules -/

/-- Binding a function of a live context fails before anything is asked if the name cannot be
    handed over, and before the name is bound if no function object is made. -/
theorem bindGlobal_apply (i : Instance O) {w : World (Recorded L O)} {t : Table}
    (ht : w.1.tables i.address = some t) (name : String) (f : Native Host) :
    c.machine.bindGlobal i name f w =
      if Text.holdsNul name then .ok (.error (.function name), w)
      else match lib.newFunction i.address t.natives.length name w.1.library.inner with
        | (none, l) => .ok (.error (.function name),
            w.asked l [.newFunction i.address t.natives.length name none])
        | (some o, l) => .ok (.ok (),
            w.bound i.address t name f o (lib.setGlobal i.address name o l).2) := by
  have hbind : bindFunction c.machine.toLibrary i.address name f w = _ :=
    bindFunction_apply ht name f
  cases hnul : Text.holdsNul name with
  | true =>
    rw [hnul, if_pos rfl] at hbind
    exact Run.bind_of_ok hbind
  | false =>
    rw [hnul, if_neg Bool.false_ne_true] at hbind
    rw [if_neg Bool.false_ne_true]
    cases hnew : lib.newFunction i.address t.natives.length name w.1.library.inner with
    | mk answer l =>
      rw [hnew] at hbind
      cases answer with
      | none => exact Run.bind_of_ok hbind
      | some o => exact Run.bind_of_ok hbind

/-- A module of a live context is registered if its name can be handed over and a loader is left
    for it; otherwise nothing is asked. -/
theorem addModule_apply (i : Instance O) {w : World (Recorded L O)} {t : Table}
    (ht : w.1.tables i.address = some t) (m : Module Host) :
    c.machine.addModule i m w =
      if Text.holdsNul m.name = false ∧ t.modules.length < loaderSlots then
        .ok (.ok (), w.registered i.address t m
          (lib.registerModule i.address m.name t.modules.length w.1.library.inner).2)
      else .ok (.error (.module m.name), w) := by
  have htable : table? i.address w = .ok (some t, w) := table?_of_eq ht
  rw [Machine.addModule]
  cases Text.holdsNul m.name with
  | true => rfl
  | false =>
    rw [if_neg Bool.false_ne_true, Run.bind_of_ok htable]
    dsimp only
    split
    next hslot =>
      rw [if_pos ⟨rfl, hslot⟩, Run.bind_of_ok (setTable_apply _ _ _)]
      rfl
    next hslot =>
      rw [if_neg fun h => hslot h.2]
      rfl

/-! ## Running -/

section Running

variable {c} {i : Instance O}

theorem Adds.call (a : Address) (callee : O) (args : List O) :
    Adds a (c.machine.call a callee args) :=
  .bind (.note ⟨rfl, rfl, rfl⟩) fun _ w r w' h => (c.call_within a callee args w r w' h).grows

theorem Adds.execute (a : Address) (code source : String) :
    Adds a (c.machine.execute a code source) :=
  .bind (.note ⟨rfl, rfl, rfl⟩) fun _ w r w' h => (c.execute_within a code source w r w' h).grows

theorem Adds.executeExpression (a : Address) (code source : String) :
    Adds a (c.machine.executeExpression a code source) :=
  .bind (.note ⟨rfl, rfl, rfl⟩) fun _ w r w' h =>
    (c.executeExpression_within a code source w r w' h).grows

/-- Binding a function of the program adds it, if it can be bound. -/
theorem Adds.bindGlobal (name : String) (f : Native Host) :
    Adds i.address (c.machine.bindGlobal i name f) := by
  refine .bind (.bindFunction name f) fun bound => ?_
  cases bound <;> exact .pure _

theorem Adds.clearException : Adds i.address (onLibrary (c.machine.clearException i.address)) :=
  .saying (.clearException i.address) ⟨rfl, rfl, rfl⟩ _

/-- Compiling a source takes no reference to what comes of it. -/
theorem Adds.compilesAsExpression (code : String) :
    Adds i.address (c.machine.compilesAsExpression i code) := by
  rw [Machine.compilesAsExpression]
  cases Text.holdsNul code with
  | true => exact .pure false
  | false =>
    exact .bind (.saying (.compileExpression i.address code) ⟨rfl, rfl, rfl⟩ _) fun _ => .pure _

theorem Adds.errorText : Adds i.address (c.machine.errorText i) :=
  .bind (.saying (.errorMessage i.address) ⟨rfl, rfl, rfl⟩ _) fun _ => .pure _

/-- Showing fails if there is no `repr`, or if calling it fails. -/
theorem Adds.shown (o : O) : Adds i.address (c.machine.shown i o) := by
  refine .bind (.record (fun _ => ⟨rfl, rfl, rfl⟩) _) fun repr => ?_
  cases repr with
  | none => exact .bind .errorText fun _ => .pure _
  | some repr =>
    refine .bind (.call i.address repr [o]) fun text => ?_
    cases text with
    | none => exact .bind .errorText fun _ => .pure _
    | some text => exact .pure _

/-- The value is held while it is shown, whether or not that fails. -/
theorem Borrows.completion (value : Option O) :
    Borrows i.address (c.machine.completion i value) := by
  refine .bind (.of_adds (.record (fun _ => ⟨rfl, rfl, rfl⟩) _)) fun exception => ?_
  cases exception with
  | some e =>
    dsimp only
    split
    · exact .of_adds (.pure Completion.exit)
    · exact .of_adds (.bind .errorText fun _ => .pure _)
  | none =>
    cases value with
    | none => exact .of_adds (.pure Completion.noValue)
    | some o =>
      dsimp only
      split
      · exact .of_adds (.pure Completion.noValue)
      · exact .holding o (.shown o)

/-- The run of an expression holds a reference to its value only while the value is shown. -/
theorem Borrows.evaluate (code : String) : Borrows i.address (c.machine.evaluate i code) := by
  rw [Machine.evaluate]
  cases Text.holdsNul code with
  | true => exact .of_adds (.pure Machine.refused)
  | false => exact .bind (.of_adds (.executeExpression i.address code sourceName)) .completion

/-- The run of statements has no value to hold. -/
theorem Borrows.runStatements (code : String) :
    Borrows i.address (c.machine.runStatements i code) := by
  rw [Machine.runStatements]
  cases Text.holdsNul code with
  | true => exact .of_adds (.pure Machine.refused)
  | false =>
    exact .bind (.of_adds (.execute i.address code sourceName)) fun _ => .completion none

/-- One of the operations of a live instance which neither register a module nor let go of the
    instance, and which returned. -/
inductive Served (c : Conduct lib) (i : Instance O) (w w' : World (Recorded L O)) : Prop
  | bindGlobal {name : String} {f : Native Host} {r : Except EngineError Unit}
      (h : c.machine.bindGlobal i name f w = .ok (r, w'))
  | clearException (h : onLibrary (c.machine.clearException i.address) w = .ok ((), w'))
  | compilesAsExpression {code : String} {r : Bool}
      (h : c.machine.compilesAsExpression i code w = .ok (r, w'))
  | evaluate {code : String} {r : Completion} (h : c.machine.evaluate i code w = .ok (r, w'))
  | runStatements {code : String} {r : Completion}
      (h : c.machine.runStatements i code w = .ok (r, w'))

/-- By any of these operations the context grows, and references are given back. -/
theorem Served.grows {w w' : World (Recorded L O)} (h : Served c i w w') :
    ∃ os, Grows i.address (held os) w w' := by
  cases h with
  | bindGlobal h => exact Borrows.of_adds (.bindGlobal _ _) _ _ _ h
  | clearException h => exact Borrows.of_adds .clearException _ _ _ h
  | compilesAsExpression h => exact Borrows.of_adds (.compilesAsExpression _) _ _ _ h
  | evaluate h => exact Borrows.evaluate _ _ _ _ h
  | runStatements h => exact Borrows.runStatements _ _ _ _ h

end Running

end LedBoard.Embedded
