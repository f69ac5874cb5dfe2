import LedBoard.Embedded.Instance
import LedBoard.Proofs.Simulation

/-!
# What code does to a host

Code that a machine runs in a context reaches the host in two ways only: it prints, by the print
function that the context was given, and it calls native functions that are filed for the
context. Besides, it changes what the machine keeps, and it imports modules of the context, whose
functions are filed then. All this, one after the other, is what code *performs*, and what of it
concerns the host is kept in order (`Performs`).

Of a machine nothing else has to be known than that the code it runs performs something, and that
its contexts print by the function given to them (`Machine.Tame`).

* `Performs`: what code does to the world, with its prints and its calls;
* `bindFunctions_files`: what changes when the functions of a module are filed;
* `Does.invoke`, `Does.loadModule`: a call that comes back to the embedding, and the run of a
  loader, perform something;
* `runStatements_performs`: so does the run of a source by an instance.
-/

namespace LedBoard.Embedded

variable {L O α β : Type}

/-- The chunk of text in what is handed to a print function; what is missing or has no length
    counts as empty. -/
def chunkOf : Option Text.Octets → Int → String
  | some octets, n => if n ≤ 0 then "" else Text.decodeLossy (octets.take n.toNat)
  | none, _ => ""

/-- What code does to the host. -/
inductive Doing
  | printed (chunk : String)
  | called (f : Native Host) (args : List Value)

/-- What code can do to the world when it is run in a context that prints by `print`. -/
inductive Performs (lib : Library L O) (print : Option PrintFunction) (a : Address) :
    World L → List Doing → World L → Prop
  | refl (w : World L) : Performs lib print a w [] w
  | trans {w w' w'' : World L} {ds ds' : List Doing} (h : Performs lib print a w ds w')
      (h' : Performs lib print a w' ds' w'') : Performs lib print a w (ds ++ ds') w''
  /-- The machine changes what it keeps. -/
  | inside (w : World L) (library : L) : Performs lib print a w [] ({ w.1 with library }, w.2)
  | printed {f : PrintFunction} (hf : print = some f) (w : World L)
      (octets : Option Text.Octets) (n : Int) :
      Performs lib print a w [.printed (chunkOf octets n)] (w.1, f octets n w.2)
  /-- The functions of a module of the context are filed, up to one that cannot be bound. -/
  | filed {w w' : World L} {slot : Slot} {m : Module Host} {bound : Bool}
      (hm : (w.1.tables a).bind (·.modules[slot]?) = some m)
      (hbind : bindFunctions lib a m.functions w = .ok (bound, w')) :
      Performs lib print a w [] w'
  | called {w w' : World L} {ticket : Ticket} {f : Native Host} {args : List Value}
      {r : Option (Except ScriptError Value)}
      (hf : (w.1.tables a).bind (·.natives[ticket]?) = some f)
      (hcall : guarded (f args) w = .ok (r, w')) : Performs lib print a w [.called f args] w'

/-- What the library does changes neither the tables nor the host. -/
theorem onLibrary_of_eq {op : StateM L α} {w : World L} {r : α} {l : L}
    (h : op w.1.library = (r, l)) : onLibrary op w = .ok (r, (⟨w.1.tables, l⟩, w.2)) := by
  obtain ⟨shared, host⟩ := w
  rw [onLibrary, h]

/-- The operation keeps what is true of the machine. -/
def Keeps (V : L → Prop) (op : StateM L α) : Prop := ∀ l, V l → V (op l).2

/-- What is true of the machine is kept by all that the embedding asks when it is called back. -/
structure Library.Stable (lib : Library L O) (a : Address) (V : L → Prop) : Prop where
  newFunction : ∀ ticket name, Keeps V (lib.newFunction a ticket name)
  setGlobal : ∀ name o, Keeps V (lib.setGlobal a name o)
  functionTicket : Keeps V (lib.functionTicket a)
  ofValue : ∀ v, Keeps V (lib.ofValue a v)
  raise : ∀ e, Keeps V (lib.raise a e)
  raiseNamed : ∀ className message, Keeps V (lib.raiseNamed a className message)

/-- What changes when functions are bound: the host stays, and so does all that is kept of the
    machine; at most these functions are filed, and the modules stay. -/
structure Files (lib : Library L O) (a : Address) (fs : List (String × Native Host))
    (w w' : World L) : Prop where
  host : w'.2 = w.2
  kept : ∀ V, lib.Stable a V → V w.1.library → V w'.1.library
  filed : ∀ t', w'.1.tables a = some t' → ∃ t, w.1.tables a = some t ∧
    t'.modules = t.modules ∧ ∀ f ∈ t'.natives, f ∈ t.natives ∨ ∃ name, (name, f) ∈ fs

namespace Files

variable {lib : Library L O} {a : Address} {fs gs : List (String × Native Host)}
  {w w' w'' : World L}

theorem refl (w : World L) : Files lib a fs w w :=
  ⟨rfl, fun _ _ hw => hw, fun t ht => ⟨t, ht, rfl, fun _ hf => .inl hf⟩⟩

theorem trans (h : Files lib a fs w w') (h' : Files lib a gs w' w'') :
    Files lib a (fs ++ gs) w w'' where
  host := h'.host.trans h.host
  kept V hstable hw := h'.kept V hstable (h.kept V hstable hw)
  filed t'' ht'' := by
    obtain ⟨t', ht', hmodules', hnatives'⟩ := h'.filed t'' ht''
    obtain ⟨t, ht, hmodules, hnatives⟩ := h.filed t' ht'
    refine ⟨t, ht, hmodules'.trans hmodules, fun f hf => ?_⟩
    rcases hnatives' f hf with hf | ⟨name, hf⟩
    · rcases hnatives f hf with hf | ⟨name, hf⟩
      · exact .inl hf
      · exact .inr ⟨name, List.mem_append_left gs hf⟩
    · exact .inr ⟨name, List.mem_append_right fs hf⟩

/-- An operation of the library that keeps what is kept files nothing. -/
theorem of_onLibrary {op : StateM L α} (hop : ∀ V, lib.Stable a V → Keeps V op) {r : α}
    (hrun : onLibrary op w = .ok (r, w')) : Files lib a fs w w' := by
  cases hrun
  exact ⟨rfl, fun V hstable hw => hop V hstable _ hw, fun t ht => ⟨t, ht, rfl, fun _ hf => .inl hf⟩⟩

end Files

/-- Binding a function asks the machine for an object and files the function behind the others. -/
theorem bindFunction_files {lib : Library L O} {a : Address} {name : String} {f : Native Host}
    {w w' : World L} {bound : Bool} (hrun : bindFunction lib a name f w = .ok (bound, w')) :
    Files lib a [(name, f)] w w' := by
  rw [Embedded.bindFunction] at hrun
  cases hnul : Text.holdsNul name with
  | true =>
    rw [hnul] at hrun
    cases hrun
    exact .refl _
  | false =>
    rw [hnul, if_neg Bool.false_ne_true] at hrun
    obtain ⟨t, w₁, htable, hrun⟩ := Run.exists_of_bind hrun
    cases htable
    obtain ⟨o, w₂, hnew, hrun⟩ := Run.exists_of_bind hrun
    have hmade : Files lib a [] w w₂ := .of_onLibrary (fun _ h => h.newFunction _ name) hnew
    cases o with
    | none =>
      cases hrun
      exact hmade.trans (.refl _)
    | some o =>
      obtain ⟨_, w₃, hset, hrun⟩ := Run.exists_of_bind hrun
      have hbound : Files lib a [] w w₃ :=
        hmade.trans (.of_onLibrary (fun _ h => h.setGlobal name o) hset)
      cases ht : w.1.tables a with
      | none =>
        rw [ht] at hrun
        cases hrun
        exact hbound.trans (.refl _)
      | some t =>
        rw [ht] at hrun
        cases hrun
        -- The table is the one from before the machine was asked, with `f` behind the others.
        refine ⟨hbound.host, hbound.kept, fun t' ht' => ⟨t, ht, ?_⟩⟩
        cases (Bindings.bind_self w₃.1.tables a _).symm.trans ht'
        refine ⟨rfl, fun g hg => (List.mem_append.1 hg).imp_right fun hg => ⟨name, ?_⟩⟩
        rw [List.mem_singleton.1 hg]
        exact List.mem_singleton_self _

/-- Binding several files none but these. -/
theorem bindFunctions_files {lib : Library L O} {a : Address} {fs : List (String × Native Host)}
    {w w' : World L} {bound : Bool} (hrun : bindFunctions lib a fs w = .ok (bound, w')) :
    Files lib a fs w w' := by
  induction fs generalizing w with
  | nil =>
    cases hrun
    exact .refl _
  | cons x rest ih =>
    obtain ⟨first, w₁, hfirst, hrun⟩ := Run.exists_of_bind hrun
    have hfiles : Files lib a [x] w w₁ := bindFunction_files hfirst
    cases first with
    | true => exact hfiles.trans (ih hrun)
    | false =>
      cases hrun
      exact hfiles.trans (.refl _)

/-- Whatever the run returns, it performed something and kept what is true of the machine. -/
def Does (lib : Library L O) (V : L → Prop) (print : Option PrintFunction) (a : Address)
    (m : Act L α) : Prop :=
  ∀ w r w', V w.1.library → m w = .ok (r, w') →
    V w'.1.library ∧ ∃ doings, Performs lib print a w doings w'

namespace Does

variable {lib : Library L O} {V : L → Prop} {print : Option PrintFunction} {a : Address}

theorem pure (r : α) : Does lib V print a (Pure.pure r : Act L α) := by
  rintro w _ _ hw ⟨⟩
  exact ⟨hw, [], .refl w⟩

/-- What is performed one after the other is told one after the other. -/
theorem bind {m : Act L α} {f : α → Act L β} (h : Does lib V print a m)
    (hf : ∀ r, Does lib V print a (f r)) : Does lib V print a (m >>= f) := by
  intro w r w'' hw hrun
  obtain ⟨r', w', hm, hrun⟩ := Run.exists_of_bind hrun
  obtain ⟨hw', ds, hds⟩ := h w r' w' hw hm
  obtain ⟨hw'', ds', hds'⟩ := hf r' w' r w'' hw' hrun
  exact ⟨hw'', ds ++ ds', hds.trans hds'⟩

theorem onLibrary {op : StateM L α} (h : Keeps V op) : Does lib V print a (onLibrary op) := by
  rintro w _ _ hw ⟨⟩
  exact ⟨h w.1.library hw, [], .inside w _⟩

/-- The function that is found for a ticket is filed, and looking it up changes nothing. -/
theorem filed_of_native {ticket : Ticket} {w w' : World L} {f : Native Host}
    (h : native a ticket w = .ok (f, w')) :
    (w.1.tables a).bind (·.natives[ticket]?) = some f ∧ w' = w := by
  obtain ⟨t, w₁, htable, h⟩ := Run.exists_of_bind h
  cases htable
  cases hf : (w.1.tables a).bind (·.natives[ticket]?) with
  | none =>
    rw [hf] at h
    cases h
  | some g =>
    rw [hf] at h
    cases h
    exact ⟨rfl, rfl⟩

/-- A native function acts on the host alone. -/
theorem guarded_shared {call : Call Host Value} {w w' : World L}
    {r : Option (Except ScriptError Value)} (h : guarded call w = .ok (r, w')) : w'.1 = w.1 := by
  obtain ⟨shared, host⟩ := w
  rw [guarded] at h
  split at h <;> cases h <;> rfl

/-- A call that comes back to the embedding runs at most one native function. -/
theorem invoke (hstable : lib.Stable a V) (args : List O) (count : Int) :
    Does lib V print a (invoke lib a args count) := by
  refine bind (onLibrary hstable.functionTicket) fun ticket => ?_
  cases ticket with
  | none => exact pure none
  | some ticket =>
    intro w r w'' hw hrun
    obtain ⟨f, w₁, hnative, hcalling⟩ := Run.exists_of_bind hrun
    obtain ⟨hf, rfl⟩ := filed_of_native hnative
    obtain ⟨answer, w₂, hcall, hanswer⟩ := Run.exists_of_bind hcalling
    have hw₂ : V w₂.1.library := by
      rwa [guarded_shared hcall]
    -- What is answered, or raised, is a matter of the machine.
    obtain ⟨hw'', ds, hds⟩ : V w''.1.library ∧ ∃ ds, Performs lib print a w₂ ds w'' := by
      match answer with
      | some (.ok v) => exact onLibrary (hstable.ofValue v) w₂ r w'' hw₂ hanswer
      | some (.error e) =>
        exact bind (onLibrary (hstable.raise e)) (fun _ => pure none) w₂ r w'' hw₂ hanswer
      | none =>
        exact bind (onLibrary (hstable.raiseNamed _ _)) (fun _ => pure none) w₂ r w'' hw₂ hanswer
    exact ⟨hw'', _, (Performs.called hf hcall).trans hds⟩

/-- Importing modules one after the other. -/
theorem importAll {imp : Address → String → Act L (Option O)}
    (himp : ∀ name, Does lib V print a (imp a name)) (names : List String) :
    Does lib V print a (importAll imp a names) := by
  induction names with
  | nil => exact pure true
  | cons name rest ih =>
    rw [Embedded.importAll]
    cases Text.holdsNul name with
    | true => exact pure false
    | false =>
      refine bind (himp name) fun o => ?_
      cases o with
      | none => exact pure false
      | some o => exact ih

/-- A loader files the functions of its module, and then imports what comes along with it. -/
theorem loadModule (hstable : lib.Stable a V) {imp : Address → String → Act L (Option O)}
    (himp : ∀ name, Does lib V print a (imp a name)) (slot : Slot) :
    Does lib V print a (loadModule lib imp a slot) := by
  intro w r w'' hw hrun
  obtain ⟨t, w₁, htable, hrun⟩ := Run.exists_of_bind hrun
  cases htable
  cases hm : (w.1.tables a).bind (·.modules[slot]?) with
  | none =>
    rw [hm] at hrun
    cases hrun
    exact ⟨hw, [], .refl w⟩
  | some m =>
    rw [hm] at hrun
    obtain ⟨bound, w', hbind, hrun⟩ := Run.exists_of_bind hrun
    have hw' := (bindFunctions_files hbind).kept V hstable hw
    have hfiled : Performs lib print a w [] w' := .filed hm hbind
    cases bound with
    | true =>
      obtain ⟨hw'', ds, hds⟩ := importAll himp m.imports w' r w'' hw' hrun
      exact ⟨hw'', ds, hfiled.trans hds⟩
    | false =>
      cases hrun
      exact ⟨hw', [], hfiled⟩

end Does

/-! ## Machines -/

/-- Contexts of the machine print by the functions that `printer` tells: those that they were
    given when they were created. And the code of a source performs something. -/
structure Machine.Tame (machine : Machine L O) (printer : L → Address → Option PrintFunction) :
    Prop where
  created : ∀ config l a, (machine.createContext config l).1 = some a →
    printer (machine.createContext config l).2 a = config.print
  getGlobal : ∀ a name l, printer (machine.getGlobal a name l).2 a = printer l a
  incRef : ∀ a o l, printer (machine.incRef a o l).2 a = printer l a
  registerModule : ∀ a name slot l, printer (machine.registerModule a name slot l).2 a = printer l a
  execute : ∀ a code source w r w', machine.execute a code source w = .ok (r, w') →
    ∃ doings, Performs machine.toLibrary (printer w.1.library a) a w doings w'

section Running

variable {machine : Machine L O} {printer : L → Address → Option PrintFunction} {i : Instance O}

/-- How a run of statements ended is asked of the machine. -/
theorem completion_none_performs (lib : Library L O) (print : Option PrintFunction) (a : Address) :
    Does lib (fun _ => True) print a (machine.completion i none) := by
  have hlibrary : ∀ {α : Type} (op : StateM L α),
      Does lib (fun _ => True) print a (onLibrary op) := fun op => .onLibrary fun _ _ => trivial
  refine .bind (hlibrary _) fun exception => ?_
  cases exception with
  | none => exact .pure Completion.noValue
  | some e =>
    dsimp only
    split
    · exact .pure Completion.exit
    · exact .bind (.bind (hlibrary _) fun _ => .pure _) fun _ => .pure _

/-- A source that is run as statements performs something, also where the run of its code was
    stopped. -/
theorem runStatements_performs (hmachine : machine.Tame printer) {code : String} {w w' : World L}
    {completion : Completion} (hrun : machine.runStatements i code w = .ok (completion, w')) :
    ∃ doings, Performs machine.toLibrary (printer w.1.library i.address) i.address w doings w' := by
  rw [Machine.runStatements] at hrun
  cases hnul : Text.holdsNul code with
  | true =>
    rw [hnul] at hrun
    cases hrun
    exact ⟨[], .refl w⟩
  | false =>
    rw [hnul, if_neg Bool.false_ne_true] at hrun
    obtain ⟨_, w₁, hexecute, hrun⟩ := Run.exists_of_bind hrun
    obtain ⟨ds, hds⟩ := hmachine.execute _ _ _ _ _ _ hexecute
    obtain ⟨-, ds', hds'⟩ :=
      completion_none_performs machine.toLibrary _ i.address w₁ _ w' trivial hrun
    exact ⟨ds ++ ds', hds.trans hds'⟩

theorem onLibrary_crashFree (op : StateM L α) : Run.CrashFree (onLibrary op) := fun _ => ⟨_, rfl⟩

theorem completion_none_crashFree (machine : Machine L O) (i : Instance O) :
    Run.CrashFree (machine.completion i none) := by
  refine .bind (onLibrary_crashFree _) fun exception => ?_
  cases exception with
  | none => exact .pure Completion.noValue
  | some e =>
    dsimp only
    split
    · exact .pure Completion.exit
    · exact .bind (.bind (onLibrary_crashFree _) fun _ => .pure _) fun _ => .pure _

/-- The run of a source crashes only where the machine crashes while it runs the code. -/
theorem execute_of_runStatements_crash {code : String} {w : World L} {crash : Crash}
    (hrun : machine.runStatements i code w = .error crash) :
    machine.execute i.address code sourceName w = .error crash := by
  rw [Machine.runStatements] at hrun
  cases hnul : Text.holdsNul code with
  | true =>
    rw [hnul] at hrun
    cases hrun
  | false =>
    rw [hnul, if_neg Bool.false_ne_true] at hrun
    cases hexecute : machine.execute i.address code sourceName w with
    | error c =>
      rw [Run.bind_apply, hexecute] at hrun
      cases hrun
      rfl
    | ok x =>
      obtain ⟨ended, w'⟩ := x
      rw [Run.bind_of_ok hexecute] at hrun
      -- How the run ended is asked of the machine alone, and its answers do not crash.
      obtain ⟨y, hy⟩ := completion_none_crashFree machine i w'
      rw [hy] at hrun
      cases hrun

end Running

end LedBoard.Embedded
