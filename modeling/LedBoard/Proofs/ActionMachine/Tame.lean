import LedBoard.ActionMachine.Run
import LedBoard.Proofs.Embedded.Performing

/-!
# The action machine is tame

The contexts of the action machine print by the function that they were created with, as long as
they live, since nothing that is done with a context changes it (`Quiet`, `Keeps`). So whatever
actions code is made of, it prints by this function, and else it reaches the host by calling back
only.

* `Behaves`: a run that performs something, and leaves the print function of its context;
* `Behaves.importModule`, `Behaves.runActions`: the runs of imports and of actions;
* `tame_of_behaves`: a machine with the library of the action machine is tame if its sources behave,
  as those of the action machine itself do (`machine_tame`).
-/

namespace LedBoard.ActionMachine

open Embedded (Address Slot Ticket PrintFunction World Machine Performs Does Keeps)

variable {α β : Type}

/-- The function by which a context prints. -/
def printer (s : State) (a : Address) : Option PrintFunction := (s.contexts a).bind (·.print)

/-! ## Operations of the library -/

/-- The operation changes the print function of no context. -/
def Quiet (op : StateM State α) : Prop := ∀ s a, printer (op s).2 a = printer s a

namespace Quiet

theorem pure (r : α) : Quiet (Pure.pure r) := fun _ _ => rfl

/-- Of two quiet operations one after the other the second is as quiet wherever the first leads. -/
theorem bind {op : StateM State α} {f : α → StateM State β} (h : Quiet op)
    (hf : ∀ r, Quiet (f r)) : Quiet (op >>= f) := fun s a =>
  (hf (op s).1 (op s).2 a).trans (h s a)

/-- So whatever is the print function of a context stays it. -/
theorem keeps {op : StateM State α} (h : Quiet op) (a : Address) (print : Option PrintFunction) :
    Keeps (printer · a = print) op := fun s hs => (h s a).trans hs

theorem noted (a : Address) (c : Call) : Quiet (noted a c) := fun _ _ => rfl

theorem ask (a : Address) (f : Faults → Context → Option α) : Quiet (ask a f) := fun _ _ => rfl

/-- Changing a context is quiet if its print function is left alone. -/
theorem update (a : Address) {f : Context → Context} (hf : ∀ c, (f c).print = c.print) :
    Quiet (update a f) := by
  intro s b
  change printer (s.update a f) b = _
  rw [State.update]
  split
  next c hc =>
    rw [printer, printer]
    dsimp only
    by_cases hb : b = a
    · rw [hb, Bindings.bind_self, hc]
      exact hf c
    · rw [Bindings.bind_ne _ hb]
  next => rfl

theorem raise (a : Address) (className message : String) : Quiet (raise a className message) :=
  .update a fun _ => rfl

theorem new (a : Address) (json : String) (o : Object) : Quiet (new a json o) :=
  .bind (.noted a _) fun _ => .pure _

theorem getGlobal (a : Address) (name : String) : Quiet (library.getGlobal a name) :=
  .bind (.noted a _) fun _ => .ask a _

/-- Binding a name changes a space of the context, and nothing else in it. -/
theorem setGlobal (a : Address) (name : String) (o : Object) :
    Quiet (library.setGlobal a name o) :=
  .bind (.ask a _) fun _ => .bind (.noted a _) fun _ => .update a fun _ => rfl

theorem incRef (a : Address) (o : Object) : Quiet (library.incRef a o) :=
  .update a fun _ => rfl

theorem registerModule (a : Address) (name : String) (slot : Slot) :
    Quiet (library.registerModule a name slot) :=
  .bind (.noted a _) fun _ => .update a fun _ => rfl

/-- A function object is made outside of all contexts. -/
theorem newFunction (a : Address) (ticket : Ticket) (name : String) :
    Quiet (library.newFunction a ticket name) :=
  .bind (.noted a _) fun _ => .bind (fun _ _ => rfl) fun _ => .pure _

/-- Whether or not there is a class of the name, all that can change is what is pending. -/
theorem raiseNamed (a : Address) (className message : String) :
    Quiet (library.raiseNamed a className message) := by
  refine .bind (.getGlobal a className) fun c => ?_
  cases c with
  | none => exact .pure ()
  | some c => exact .bind (.noted a _) fun _ => .raise a _ _

/-- So it is with whatever a refusal becomes. -/
theorem raiseError (a : Address) (e : ScriptError) : Quiet (library.raise a e) := by
  cases e with
  | argumentCount expected given => exact .bind (.noted a _) fun _ => .raise a _ _
  | argumentType index expected found => exact .bind (.noted a _) fun _ => .raise a _ _
  | value message => exact .raiseNamed a _ message

theorem ofValue (a : Address) (v : Value) : Quiet (library.ofValue a v) := by
  cases v <;> exact .new a _ _

end Quiet

/-- What the embedding asks when it is called back is quiet. -/
theorem library_stable (a : Address) (print : Option PrintFunction) :
    library.Stable a (printer · a = print) where
  newFunction ticket name := (Quiet.newFunction a ticket name).keeps a print
  setGlobal name o := (Quiet.setGlobal a name o).keeps a print
  functionTicket := (Quiet.ask a _).keeps a print
  ofValue v := (Quiet.ofValue a v).keeps a print
  raise e := (Quiet.raiseError a e).keeps a print
  raiseNamed className message := (Quiet.raiseNamed a className message).keeps a print

/-! ## Runs -/

/-- A run in a context that prints by `print` performs something, and the context goes on to
    print by this function. -/
abbrev Behaves (print : Option PrintFunction) (a : Address) (m : Act α) : Prop :=
  Does library (printer · a = print) print a m

namespace Behaves

variable {print : Option PrintFunction} {a : Address}

theorem onMachine {op : StateM State α} (h : Quiet op) : Behaves print a (onMachine op) :=
  .onLibrary (h.keeps a print)

/-- Code that fails leaves an exception behind and does nothing to the host. -/
theorem fail (className message : String) :
    Behaves print a (fail a className message : Act (Option α)) :=
  .bind (onMachine (.raise a _ _)) fun _ => .pure none

/-! ### Importing -/

theorem bindModule (name : String) : Behaves print a (bindModule a name) :=
  .bind (onMachine (.update a fun _ => rfl)) fun _ => .pure _

/-- An import performs what the loader performs that it runs, if it runs one. -/
theorem importWith {load : Address → Slot → Act Bool}
    (hload : ∀ slot, Behaves print a (load a slot)) (name : String) :
    Behaves print a (importWith load a name) := by
  refine .bind (onMachine (.noted a _)) fun _ => .bind (onMachine (.ask a _)) fun space => ?_
  split
  · exact bindModule name
  refine .bind (onMachine (.ask a _)) fun slot => ?_
  cases slot with
  | none => exact fail _ _
  | some slot =>
    refine .bind (onMachine (.update a fun _ => rfl)) fun _ => .bind (hload slot) fun loaded => ?_
    refine .bind (onMachine (.update a fun _ => rfl)) fun _ => ?_
    cases loaded with
    | true => exact bindModule name
    | false =>
      refine .bind (onMachine (.update a fun c => ?_)) fun _ => .pure none
      rw [discard]
      split <;> rfl

/-- However deep loads may be nested. -/
theorem load (depth : Nat) (slot : Slot) : Behaves print a (load depth a slot) := by
  induction depth generalizing slot with
  | zero => exact .pure false
  | succ depth ih => exact .loadModule (library_stable a print) (importWith ih) slot

/-- So an import performs something, with loads nested as deep as there are slots. -/
theorem importModule (name : String) : Behaves print a (importModule a name) :=
  importWith (load _) name

/-! ### Actions -/

/-- A call that comes back to the embedding is one of a function object; all others stay within the
    machine. -/
theorem callWith (callee : Object) (args : List Object) (count : Int) :
    Behaves print a (callWith a callee args count) := by
  cases callee with
  | function name ticket =>
    exact .bind (onMachine (.update a fun _ => rfl)) fun _ =>
      .invoke (library_stable a print) args count
  | repr =>
    rw [ActionMachine.callWith]
    cases (args.headD .none).representation with
    | ok o => exact .pure _
    | error message => exact fail _ message
  | _ => exact fail _ _

/-- Looking up a path fails within the machine, if it fails. -/
theorem get (path : String) : Behaves print a (get a path) := by
  refine .bind (onMachine (.ask a _)) fun found => ?_
  cases found with
  | some o => exact .pure _
  | none => exact fail _ path

/-- What a context prints goes to its print function. -/
theorem printing (octets : Option Text.Octets) (length : Int) :
    Behaves print a (ActionMachine.print a octets length) := by
  intro w r w' hw hrun
  obtain ⟨found, w₁, hask, hprint⟩ := Run.exists_of_bind hrun
  have hfound : found = print ∧ w₁ = w := by
    cases hask
    exact ⟨hw, rfl⟩
  obtain ⟨rfl, rfl⟩ := hfound
  cases found with
  | none =>
    cases hprint
    exact ⟨hw, [], .refl _⟩
  | some f =>
    cases hprint
    exact ⟨hw, _, .printed rfl w₁ octets length⟩

/-- The step over the actions: each one performs something. -/
theorem run (last : Object) (action : Action) : Behaves print a (action.run a last) := by
  cases action with
  | print octets length => exact .bind (printing _ _) fun _ => .pure _
  | printNothing => exact .bind (printing _ _) fun _ => .pure _
  | value o => exact .pure _
  | stop => exact .pure none
  | get path => exact get path
  | set name => exact .bind (onMachine (.update a fun _ => rfl)) fun _ => .pure _
  | call path args count =>
    refine .bind (get path) fun callee => ?_
    cases callee with
    | some callee => exact callWith callee args _
    | none => exact .pure none
  | importModule name => exact importModule name
  | raise className message => exact .bind (onMachine (.update a fun _ => rfl)) fun _ => .pure none

/-- By induction on the actions. -/
theorem runActions (actions : List Action) (last : Object) :
    Behaves print a (runActions a actions last) := by
  induction actions generalizing last with
  | nil => exact .pure _
  | cons action rest ih =>
    refine .bind (run last action) fun o => ?_
    cases o with
    | some o => exact ih o
    | none => exact .pure none

/-- So the code of a source performs something, also where it cannot be read. -/
theorem runCode (actions : Option (List Action)) : Behaves print a (runCode a actions) := by
  cases actions with
  | some actions => exact runActions actions .none
  | none => exact fail _ _

end Behaves

/-! ## The machine -/

/-- The contexts are numbered as they are asked for, whether or not they are created. -/
theorem createContext_apply (config : Embedded.ContextConfig) (s : State) :
    library.createContext config s =
      if s.faults.create = some s.created then
        (none, { s.note s.created (.createContext config) with created := s.created + 1 })
      else
        (some s.created, { s.note s.created (.createContext config) with
          created := s.created + 1
          contexts := s.contexts.bind s.created { print := config.print } }) := by
  change ((if s.faults.create = some s.created then pure none else _ :
    StateM State (Option Address)) _) = _
  split <;> rfl

/-- A context that is created prints as it is told to. -/
theorem createContext_prints {config : Embedded.ContextConfig} {s : State} {a : Address}
    (h : (library.createContext config s).1 = some a) :
    printer (library.createContext config s).2 a = config.print := by
  rw [createContext_apply] at h ⊢
  split at h
  next => cases h
  next hfault =>
    cases h
    rw [if_neg hfault, printer]
    exact congrArg (Option.bind · _) (Bindings.bind_self ..)

/-- A machine with the library of the action machine is tame if its sources behave. -/
theorem tame_of_behaves {machine : Machine State Object} (hlibrary : machine.toLibrary = library)
    (hexecute : ∀ print a code source, Behaves print a (machine.execute a code source)) :
    machine.Tame printer where
  created config l a hsome := by
    rw [hlibrary] at hsome ⊢
    exact createContext_prints hsome
  getGlobal a name l := by
    rw [hlibrary]
    exact Quiet.getGlobal a name l a
  incRef a o l := by
    rw [hlibrary]
    exact Quiet.incRef a o l a
  registerModule a name slot l := by
    rw [hlibrary]
    exact Quiet.registerModule a name slot l a
  execute a code source w r w' hrun := by
    rw [hlibrary]
    exact (hexecute _ a code source w r w' rfl hrun).2

/-- The action machine itself is. -/
theorem machine_tame : machine.Tame printer :=
  tame_of_behaves rfl fun _ a _ _ =>
    .bind (Behaves.onMachine (.noted a _)) fun _ => .bind (Behaves.runCode _) fun _ => .pure _

end LedBoard.ActionMachine
