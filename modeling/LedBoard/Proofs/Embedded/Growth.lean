import LedBoard.Proofs.Embedded.Requests

/-!
# What a context grows by

Whatever is done with a live context, short of letting go of it, only adds to what the embedding
keeps: native functions are filed behind those that are there, and requests are logged; the
modules stay, and so do the tables of all other contexts (`Grows`). That holds of binding,
calling and loading, of which loads may be nested; and so it holds of code that the machine runs,
which can call back and nothing else (`Within`), and of all that an instance does.

* `Midst`: all that is ever done to the world in this way, step by step;
* `Adds`, `Borrows`: runs by which a context grows, where no reference is taken, or each is given
  back before the next is taken;
* `bindFunction_apply`: what binding a function does;
* `Within.grows`: the growth by code;
* `Conduct`: a machine, of which nothing is known but that code which it runs in a context can do
  no more than `Within` says.
-/

namespace LedBoard.Embedded

variable {L O α β : Type} {lib : Library L O} {a : Address}

/-! ## Growth -/

/-- References that are taken and at once given back. -/
def held (os : List O) : List (Reference O) := os.flatMap fun o => [.taken o, .given o]

/-- Requests to a live context, in which references become `refs` and function objects are made
    of the `k` tickets from `n` on. -/
structure Asked (a : Address) (refs : List (Reference O)) (n k : Nat) (xs : List (Request O)) :
    Prop where
  within : ∀ x ∈ xs, x.within? = some a
  references : references xs = refs
  tickets : tickets xs = List.range' n k

theorem Asked.nil (n : Nat) : Asked a ([] : List (Reference O)) n 0 [] :=
  ⟨List.forall_mem_nil _, rfl, rfl⟩

/-- Requests one after the other: references and tickets go on where the first ones stopped. -/
theorem Asked.append {refs refs' : List (Reference O)} {n k l : Nat} {xs ys : List (Request O)}
    (hxs : Asked a refs n k xs) (hys : Asked a refs' (n + k) l ys) :
    Asked a (refs ++ refs') n (k + l) (xs ++ ys) where
  within := List.forall_mem_append.2 ⟨hxs.within, hys.within⟩
  references := by
    rw [references_append, hxs.references, hys.references]
  tickets := by
    rw [Embedded.tickets, List.filterMap_append, ← List.range'_append_1]
    exact congrArg₂ _ hxs.tickets hys.tickets

/-- A request that takes no reference and gives none back, and makes no function object. -/
structure Request.Plain (a : Address) (x : Request O) : Prop where
  within : x.within? = some a
  reference : x.reference? = none
  ticket : x.ticket? = none

theorem Asked.plain {x : Request O} (hx : x.Plain a) (n : Nat) : Asked a [] n 0 [x] where
  within := List.forall_mem_singleton.2 hx.within
  references := by
    rw [Embedded.references, List.filterMap_cons_none hx.reference]
    rfl
  tickets := by
    rw [Embedded.tickets, List.filterMap_cons_none hx.ticket]
    rfl

/-- What can come after a world in the midst of operations on live contexts: the machine is asked
    something and changes in whatever way, the host changes, and functions are filed. -/
inductive Midst : World (Recorded L O) → World (Recorded L O) → Prop
  | refl (w : World (Recorded L O)) : Midst w w
  | trans {w w' w'' : World (Recorded L O)} (h : Midst w w') (h' : Midst w' w'') : Midst w w''
  | asked (w : World (Recorded L O)) (inner : L) (xs : List (Request O)) :
      Midst w (w.asked inner xs)
  | host (w : World (Recorded L O)) (h : Host) : Midst w (w.1, h)
  | filed {w : World (Recorded L O)} {a : Address} {t : Table} (ht : w.1.tables a = some t)
      (f : Native Host) : Midst w (w.withTable a (some { t with natives := t.natives ++ [f] }))

/-- What is kept of a live context grew: native functions were filed behind those there, requests
    were logged in which references became `refs`, and other contexts keep their tables. -/
structure Grows (a : Address) (refs : List (Reference O)) (w w' : World (Recorded L O)) : Prop where
  midst : Midst w w'
  others : ∀ b, b ≠ a → w'.1.tables b = w.1.tables b
  own : ∀ t, w.1.tables a = some t → ∃ fs xs,
    w'.1.tables a = some { t with natives := t.natives ++ fs } ∧
    w'.log = w.log ++ xs ∧ Asked a refs t.natives.length fs.length xs

namespace Grows

variable {refs refs' : List (Reference O)} {w w' w'' : World (Recorded L O)}

/-- The host does not matter. -/
theorem of_host (w : World (Recorded L O)) (h : Host) : Grows a [] w (w.1, h) where
  midst := .host w h
  others _ _ := rfl
  own t ht := by
    refine ⟨[], [], ?_, (List.append_nil _).symm, .nil _⟩
    rw [List.append_nil]
    exact ht

theorem refl (w : World (Recorded L O)) : Grows a [] w w := of_host w w.2

/-- Growth adds up. -/
theorem trans (h : Grows a refs w w') (h' : Grows a refs' w' w'') :
    Grows a (refs ++ refs') w w'' where
  midst := h.midst.trans h'.midst
  others b hb := (h'.others b hb).trans (h.others b hb)
  own t ht := by
    obtain ⟨fs, xs, ht', hlog, hxs⟩ := h.own t ht
    obtain ⟨gs, ys, ht'', hlog', hys⟩ := h'.own _ ht'
    refine ⟨fs ++ gs, xs ++ ys, ?_, ?_, ?_⟩
    · rw [ht'', List.append_assoc]
    · rw [hlog', hlog, List.append_assoc]
    · rw [List.length_append] at hys ⊢
      exact hxs.append hys

/-- Nothing is filed by requests alone. -/
theorem of_asked {xs : List (Request O)} (hxs : ∀ n, Asked a refs n 0 xs)
    (w : World (Recorded L O)) (inner : L) : Grows a refs w (w.asked inner xs) where
  midst := .asked w inner xs
  others _ _ := rfl
  own t ht := ⟨[], xs, by rw [List.append_nil]; exact ht, rfl, hxs _⟩

end Grows

/-- Whatever the run returns, the context grew, and no reference was taken or given back. -/
def Adds (a : Address) (m : Act (Recorded L O) α) : Prop :=
  ∀ w r w', m w = .ok (r, w') → Grows a [] w w'

namespace Adds

theorem pure (r : α) : Adds a (Pure.pure r : Act (Recorded L O) α) := by
  rintro w _ _ ⟨⟩
  exact .refl w

/-- Runs by which a context grows make, one after the other, a run by which it grows. -/
theorem bind {m : Act (Recorded L O) α} {f : α → Act (Recorded L O) β} (h : Adds a m)
    (hf : ∀ r, Adds a (f r)) : Adds a (m >>= f) := by
  intro w r w'' hrun
  obtain ⟨r', w', hm, hrun⟩ := Run.exists_of_bind hrun
  exact (h w r' w' hm).trans (hf r' w' r w'' hrun)

/-- The same is true of a single request to a context, if it is plain. -/
theorem record {request : α → Request O} (h : ∀ r, (request r).Plain a) (op : StateM L α) :
    Adds a (onLibrary (record request op)) := by
  rintro w _ _ ⟨⟩
  exact .of_asked (fun n => .plain (h _) n) w _

/-- The same of a request that does not tell the answer. -/
theorem saying (x : Request O) (h : x.Plain a) (op : StateM L α) :
    Adds a (onLibrary (Embedded.record (fun _ => x) op)) :=
  record (fun _ => h) op

theorem note {x : Request O} (h : x.Plain a) : Adds a (note x : Act (Recorded L O) Unit) :=
  saying x h _

theorem table? (b : Address) : Adds a (table? b : Act (Recorded L O) (Option Table)) := by
  rintro w _ _ ⟨⟩
  exact .refl w

end Adds

/-- Whatever the run returns, the context grew, and references were taken only to be given back
    before any other is taken. -/
def Borrows (a : Address) (m : Act (Recorded L O) α) : Prop :=
  ∀ w r w', m w = .ok (r, w') → ∃ os, Grows a (held os) w w'

namespace Borrows

/-- A run that takes no reference has none to give back. -/
theorem of_adds {m : Act (Recorded L O) α} (h : Adds a m) : Borrows a m :=
  fun w r w' hrun => ⟨[], h w r w' hrun⟩

/-- Each part gives back what it has taken before the other begins. -/
theorem bind {m : Act (Recorded L O) α} {f : α → Act (Recorded L O) β} (h : Borrows a m)
    (hf : ∀ r, Borrows a (f r)) : Borrows a (m >>= f) := by
  intro w r w'' hrun
  obtain ⟨r', w', hm, hrun⟩ := Run.exists_of_bind hrun
  obtain ⟨os, hos⟩ := h w r' w' hm
  obtain ⟨ps, hps⟩ := hf r' w' r w'' hrun
  refine ⟨os ++ ps, ?_⟩
  rw [held, List.flatMap_append]
  exact hos.trans hps

/-- A reference is held during a run that takes none. -/
theorem holding (o : O) {m : Act (Recorded L O) α} (h : Adds a m) :
    Borrows a (onLibrary (lib.recorded.incRef a o) >>= fun _ => m >>= fun r =>
      onLibrary (lib.recorded.decRef a o) >>= fun _ => Pure.pure r) := by
  intro w r w' hrun
  obtain ⟨_, w₁, htake, hrun⟩ := Run.exists_of_bind hrun
  obtain ⟨r', w₂, hm, hrun⟩ := Run.exists_of_bind hrun
  obtain ⟨_, w₃, hgive, hrun⟩ := Run.exists_of_bind hrun
  cases htake
  cases hgive
  cases hrun
  have htaken (n : Nat) : Asked a [.taken o] n 0 [.incRef a o] :=
    ⟨List.forall_mem_singleton.2 rfl, rfl, rfl⟩
  have hgiven (n : Nat) : Asked a [.given o] n 0 [.decRef a o] :=
    ⟨List.forall_mem_singleton.2 rfl, rfl, rfl⟩
  exact ⟨[o], ((Grows.of_asked htaken w _).trans (h _ _ _ hm)).trans (.of_asked hgiven w₂ _)⟩

end Borrows

/-! ## Binding -/

/-- The world after a function was bound, where the machine became `inner`. -/
def World.bound (w : World (Recorded L O)) (a : Address) (t : Table) (name : String)
    (f : Native Host) (o : O) (inner : L) : World (Recorded L O) :=
  (w.asked inner [.newFunction a t.natives.length name (some o), .setGlobal a name o]).withTable a
    (some { t with natives := t.natives ++ [f] })

theorem Midst.bound {w : World (Recorded L O)} {t : Table} (ht : w.1.tables a = some t)
    (name : String) (f : Native Host) (o : O) (inner : L) :
    Midst w (w.bound a t name f o inner) :=
  (Midst.asked w inner _).trans (.filed (w := w.asked inner _) ht f)

/-- Binding a function fails before anything is asked if the name cannot be handed over, and
    before the name is bound if no function object is made. Otherwise the function is filed under
    the ticket of the object. -/
theorem bindFunction_apply {w : World (Recorded L O)} {t : Table} (ht : w.1.tables a = some t)
    (name : String) (f : Native Host) :
    bindFunction lib.recorded a name f w =
      if Text.holdsNul name then .ok (false, w)
      else match lib.newFunction a t.natives.length name w.1.library.inner with
        | (none, l) => .ok (false, w.asked l [.newFunction a t.natives.length name none])
        | (some o, l) => .ok (true, w.bound a t name f o (lib.setGlobal a name o l).2) := by
  have htable : table? a w = .ok (some t, w) := table?_of_eq ht
  rw [bindFunction]
  cases Text.holdsNul name with
  | true => rfl
  | false =>
    rw [if_neg Bool.false_ne_true, if_neg Bool.false_ne_true, Run.bind_of_ok htable]
    -- The function object is asked for first; only if there is one, it is bound and filed.
    -- The function object is asked for first; only if there is one, it is bound and filed.
    cases hnew : lib.newFunction a t.natives.length name w.1.library.inner with
    | mk answer l =>
      have hmake : onLibrary (lib.recorded.newFunction a t.natives.length name) w =
          .ok (answer, w.asked l [.newFunction a t.natives.length name answer]) :=
        onLibrary_record_of_eq hnew
      refine (Run.bind_of_ok hmake).trans ?_
      cases answer with
      | none => rfl
      | some o =>
        have hset : onLibrary (lib.recorded.setGlobal a name o)
            (w.asked l [.newFunction a t.natives.length name (some o)]) =
            .ok ((), w.asked (lib.setGlobal a name o l).2
              [.newFunction a t.natives.length name (some o), .setGlobal a name o]) :=
          onLibrary_record_asked (fun _ => .setGlobal a name o) _ w l _
        exact (Run.bind_of_ok hset).trans (Run.bind_of_ok (setTable_apply _ _ _))

/-- In a context without a table nothing is filed. -/
theorem bindFunction_of_none {w w' : World (Recorded L O)} (h : w.1.tables a = none)
    {name : String} {f : Native Host} {r : Bool}
    (hrun : bindFunction lib.recorded a name f w = .ok (r, w')) :
    ∃ inner xs, w' = w.asked inner xs := by
  have htable : table? a w = .ok (none, w) := table?_of_eq h
  rw [bindFunction] at hrun
  cases hnul : Text.holdsNul name with
  | true =>
    rw [hnul] at hrun
    cases hrun
    exact ⟨_, _, w.asked_nil.symm⟩
  | false =>
    rw [hnul, if_neg Bool.false_ne_true, Run.bind_of_ok htable] at hrun
    obtain ⟨answer, w₁, hmake, hrun⟩ := Run.exists_of_bind hrun
    obtain ⟨l, xs, rfl⟩ : ∃ l xs, w₁ = w.asked l xs := by
      cases hmake
      exact ⟨_, _, rfl⟩
    cases answer with
    | none =>
      cases hrun
      exact ⟨_, _, rfl⟩
    | some o =>
      obtain ⟨_, w₂, hset, hrun⟩ := Run.exists_of_bind hrun
      cases hrun
      cases hset
      exact ⟨_, _, w.asked_asked _ _ _ _⟩

/-- Binding a function files it under the ticket of the one object that was made, and files nothing
    if none was. -/
theorem Adds.bindFunction (name : String) (f : Native Host) :
    Adds a (bindFunction lib.recorded a name f) := by
  intro w r w' hrun
  cases ht : w.1.tables a with
  | none =>
    obtain ⟨inner, xs, rfl⟩ := bindFunction_of_none ht hrun
    exact ⟨.asked w inner xs, fun _ _ => rfl, fun t ht' => by cases ht.symm.trans ht'⟩
  | some t =>
    rw [bindFunction_apply ht] at hrun
    split at hrun
    · cases hrun
      exact .refl w
    · split at hrun
      · cases hrun
        exact .of_asked (fun n => .plain ⟨rfl, rfl, rfl⟩ n) w _
      · cases hrun
        refine ⟨.bound ht name f _ _, fun b hb => World.withTable_ne _ hb _, fun t' ht' => ?_⟩
        obtain rfl := Option.some.inj (ht.symm.trans ht')
        refine ⟨[f], _, World.withTable_self _ a _, rfl, ?_, rfl, rfl⟩
        rintro x hx
        rcases List.mem_cons.1 hx with rfl | hx
        · rfl
        · obtain rfl := List.mem_singleton.1 hx
          rfl

/-- So do the functions of a module, up to one that cannot be bound. -/
theorem Adds.bindFunctions (fs : List (String × Native Host)) :
    Adds a (bindFunctions lib.recorded a fs) := by
  induction fs with
  | nil => exact .pure true
  | cons x rest ih =>
    refine .bind (.bindFunction x.1 x.2) fun bound => ?_
    cases bound with
    | true => exact ih
    | false => exact .pure false

/-! ## Calling -/

theorem Adds.ofValue : ∀ v : Value, Adds a (onLibrary (lib.recorded.ofValue a v))
  | .none | .object _ => .saying (.newObject a .none) ⟨rfl, rfl, rfl⟩ _
  | .bool b => .saying (.newObject a (.bool b)) ⟨rfl, rfl, rfl⟩ _
  | .int n => .saying (.newObject a (.int n)) ⟨rfl, rfl, rfl⟩ _
  | .float x => .saying (.newObject a (.float x)) ⟨rfl, rfl, rfl⟩ _
  | .str s => .saying (.newObject a (.str (Text.withoutNul s))) ⟨rfl, rfl, rfl⟩ _

theorem Adds.raiseNamed (className message : String) :
    Adds a (onLibrary (lib.recorded.raiseNamed a className message)) := by
  rw [Library.raiseNamed, onLibrary_bind]
  refine .bind (.record (fun _ => ⟨rfl, rfl, rfl⟩) _) fun c => ?_
  cases c with
  | none =>
    rintro w _ _ ⟨⟩
    exact .refl w
  | some c => exact .saying (.raiseClass a c (Text.withoutNul message)) ⟨rfl, rfl, rfl⟩ _

theorem Adds.raise : ∀ e : ScriptError, Adds a (onLibrary (lib.recorded.raise a e))
  | .argumentCount expected given =>
    .saying (.raiseArgumentCount a (Int32.ofNat given) (Int32.ofNat expected)) ⟨rfl, rfl, rfl⟩ _
  | .argumentType index expected _ =>
    .saying (.raiseArgumentType a (Int32.ofNat index) expected.name) ⟨rfl, rfl, rfl⟩ _
  | .value message => .raiseNamed "ValueError" message

/-- A native function acts on the host alone. -/
theorem Adds.guarded (call : Call Host Value) :
    Adds a (guarded call : Act (Recorded L O) (Option (Except ScriptError Value))) := by
  intro w r w' hrun
  obtain ⟨shared, h⟩ := w
  rw [Embedded.guarded] at hrun
  cases hcall : call.run h with
  | ok x =>
    rw [hcall] at hrun
    cases hrun
    exact .of_host _ _
  | error crash =>
    rw [hcall] at hrun
    cases hrun
    exact .of_host _ _

/-- A function that is found is not taken out of the table. -/
theorem Adds.native (ticket : Ticket) :
    Adds a (native a ticket : Act (Recorded L O) (Native Host)) := by
  refine .bind (.table? a) fun t => ?_
  cases t.bind (·.natives[ticket]?) with
  | none =>
    intro w r w' hrun
    cases hrun
  | some f => exact .pure f

/-- So a call that comes back to the embedding adds nothing but requests. -/
theorem Adds.invoke (args : List O) (count : Int) :
    Adds a (invoke lib.recorded a args count) := by
  refine .bind (.record (fun _ => ⟨rfl, rfl, rfl⟩) _) fun ticket => ?_
  cases ticket with
  | none => exact .pure none
  | some ticket =>
    refine .bind (.native ticket) fun f => .bind (.guarded _) fun r => ?_
    match r with
    | some (.ok v) => exact .ofValue v
    | some (.error e) => exact .bind (.raise e) fun _ => .pure none
    | none => exact .bind (.raiseNamed _ _) fun _ => .pure none

/-! ## Loading -/

/-- Imports a module, and puts down that this was asked. -/
def requesting (imp : Address → String → Act (Recorded L O) (Option O)) (b : Address)
    (name : String) : Act (Recorded L O) (Option O) := do
  note (.importModule b name)
  imp b name

section Loading

variable {imp : Address → String → Act (Recorded L O) (Option O)}

/-- Imports one after the other add what each of them adds. -/
theorem Adds.importAll (himp : ∀ name, Adds a (imp a name)) (names : List String) :
    Adds a (importAll (requesting imp) a names) := by
  induction names with
  | nil => exact .pure true
  | cons name rest ih =>
    rw [Embedded.importAll]
    cases Text.holdsNul name with
    | true => exact .pure false
    | false =>
      refine .bind (.bind (.note ⟨rfl, rfl, rfl⟩) fun _ => himp name) fun o => ?_
      cases o with
      | none => exact .pure false
      | some o => exact ih

/-- A loader adds the functions of its module and what its imports add. -/
theorem Adds.loadModule (himp : ∀ name, Adds a (imp a name)) (slot : Slot) :
    Adds a (loadModule lib.recorded (requesting imp) a slot) := by
  refine .bind (.table? a) fun t => ?_
  cases t.bind (·.modules[slot]?) with
  | none => exact .pure false
  | some m =>
    refine .bind (.bindFunctions m.functions) fun bound => ?_
    cases bound with
    | true => exact .importAll himp m.imports
    | false => exact .pure false

end Loading

/-! ## Code -/

/-- What code that the machine runs in a context can do: act within the machine, print, call back
    into the embedding to run one of its loaders or a native function, and all that one after the
    other. What a loader imports is done by code again. -/
inductive Within (lib : Library L O) (a : Address) :
    World (Recorded L O) → World (Recorded L O) → Prop
  | refl (w : World (Recorded L O)) : Within lib a w w
  | trans {w w' w'' : World (Recorded L O)} (h : Within lib a w w') (h' : Within lib a w' w'') :
      Within lib a w w''
  | inside (w : World (Recorded L O)) (inner : L) : Within lib a w (w.asked inner [])
  | print (w : World (Recorded L O)) (h : Host) : Within lib a w (w.1, h)
  | load {w w' : World (Recorded L O)} {imp : Address → String → Act (Recorded L O) (Option O)}
      {slot : Slot} {r : Bool}
      (himp : ∀ name v r v', imp a name v = .ok (r, v') → Within lib a v v')
      (hload : loadModule lib.recorded (requesting imp) a slot w = .ok (r, w')) :
      Within lib a w w'
  | invoke {w w' : World (Recorded L O)} {args : List O} {count : Int} {r : Option O}
      (hinvoke : Embedded.invoke lib.recorded a args count w = .ok (r, w')) : Within lib a w w'

/-- So a context only grows by code. -/
theorem Within.grows {w w' : World (Recorded L O)} (h : Within lib a w w') : Grows a [] w w' := by
  -- By induction on what the code does; the imports of a loader are shorter runs of code.
  induction h with
  | refl w => exact .refl w
  | trans _ _ ih ih' => exact ih.trans ih'
  | inside w inner => exact .of_asked (fun n => .nil n) w inner
  | print w h => exact .of_host w h
  | load _ hload ih => exact Adds.loadModule (fun name v r v' => ih name v r v') _ _ _ _ hload
  | invoke hinvoke => exact Adds.invoke _ _ _ _ _ hinvoke

/-- A machine on a library: its operations that run code, of which nothing is known but what the
    code can do. -/
structure Conduct (lib : Library L O) where
  importModule : Address → String → Act (Recorded L O) (Option O)
  call : Address → O → List O → Act (Recorded L O) (Option O)
  execute : Address → (code sourceName : String) → Act (Recorded L O) Bool
  executeExpression : Address → (code sourceName : String) → Act (Recorded L O) (Option O)
  importModule_within : ∀ a name w r w',
    importModule a name w = .ok (r, w') → Within lib a w w'
  call_within : ∀ a callee args w r w', call a callee args w = .ok (r, w') → Within lib a w w'
  execute_within : ∀ a code source w r w',
    execute a code source w = .ok (r, w') → Within lib a w w'
  executeExpression_within : ∀ a code source w r w',
    executeExpression a code source w = .ok (r, w') → Within lib a w w'

/-- The machine, which puts down what it is asked. -/
def Conduct.machine (c : Conduct lib) : Machine (Recorded L O) O where
  toLibrary := lib.recorded
  importModule := requesting c.importModule
  call a callee args := do
    note (.call a callee args)
    c.call a callee args
  execute a code source := do
    note (.execute a code)
    c.execute a code source
  executeExpression a code source := do
    note (.executeExpression a code)
    c.executeExpression a code source

/-- Code that calls nothing back: expressions have this value, and functions return this text. -/
def Conduct.steady (lib : Library L O) (value text : Option O) : Conduct lib where
  importModule _ _ := pure none
  call _ _ _ := pure text
  execute _ _ _ := pure true
  executeExpression _ _ _ := pure value
  importModule_within := by
    rintro a name w _ _ ⟨⟩
    exact .refl w
  call_within := by
    rintro a callee args w _ _ ⟨⟩
    exact .refl w
  execute_within := by
    rintro a code source w _ _ ⟨⟩
    exact .refl w
  executeExpression_within := by
    rintro a code source w _ _ ⟨⟩
    exact .refl w

end LedBoard.Embedded
