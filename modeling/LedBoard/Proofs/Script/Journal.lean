import LedBoard.Host.Event
import LedBoard.Proofs.Script.Simulation

/-!
# The journal of a run

What a script does to its surroundings is to print chunks and to call native functions. An
interpreter can keep a journal of both beside its host (`Interpreter.recorded`): its native
functions and its prints write down what they are asked to do before they do it. The journal
changes nothing else, and what goes into it can be compared across hosts.

* `Interpreter.deeds?`: what the run of a source does, read off the journal;
* `Only.recorded_sim`: an interpreter that keeps a journal simulates the one that keeps none, and
  keeps what every print and every call keeps of the journal and the host;
* `Sim.deeds?`: interpreters of which one simulates the other write the same journal.
-/

namespace LedBoard

open Script (beside)

variable {σ τ σ' τ' : Type}

/-- What a script does to its surroundings. -/
inductive Deed
  | printed (chunk : String)
  /-- A native function was called by this name with these arguments. -/
  | called (name : String) (args : List Value)
  deriving DecidableEq, Repr

/-- The chunk that was printed. -/
def Deed.chunk? : Deed → Option String
  | .printed chunk => some chunk
  | .called .. => none

/-! ## Native functions with a journal -/

/-- A host with a journal beside it, of which `K` is true, and the same host alone. -/
def Kept (K : List Deed → σ → Prop) (w : List Deed × σ) (s : σ) : Prop := w.2 = s ∧ K w.1 s

/-- Related hosts with the same journal beside them. -/
def Alongside (R : σ → τ → Prop) (w : List Deed × σ) (v : List Deed × τ) : Prop :=
  w.1 = v.1 ∧ R w.2 v.2

/-- The native function that writes down its calls under a name. -/
def Native.recorded (name : String) (f : Native σ) : Native (List Deed × σ) := fun args =>
  ExceptT.mk fun w => beside (f args).run (w.1 ++ [.called name args], w.2)

theorem beside_apply {κ α : Type} (act : Run σ α) (w : κ × σ) :
    beside act w = (act w.2).map fun x => (x.1, (w.1, x.2)) := by
  rw [beside]
  cases act w.2 with
  | error crash => rfl
  | ok x => rfl

theorem Native.recorded_apply (name : String) (f : Native σ) (args : List Value)
    (w : List Deed × σ) :
    (Native.recorded name f args).run w =
      ((f args).run w.2).map fun x => (x.1, (w.1 ++ [.called name args], x.2)) :=
  beside_apply (f args).run (w.1 ++ [Deed.called name args], w.2)

/-- A call keeps what is true of the journal and the host if it does so with its own entry behind
    those before. -/
theorem Native.recorded_kept {K : List Deed → σ → Prop} {name : String} {f : Native σ}
    (h : ∀ args deeds s r s', K deeds s → (f args).run s = .ok (r, s') →
      K (deeds ++ [.called name args]) s') :
    Native.Sim (Kept K) (Native.recorded name f) f := by
  rintro args w _ ⟨rfl, hw⟩
  rw [Native.recorded_apply]
  cases hrun : (f args).run w.2 with
  | error crash => exact .failed crash
  | ok x => exact .returned ⟨.refl x.1, rfl, h _ _ _ _ _ hw hrun⟩

/-- Native functions of which one simulates the other do so when they are recorded under one name.
    -/
theorem Native.Sim.recorded {R : σ → τ → Prop} {f : Native σ} {g : Native τ}
    (h : Native.Sim R f g) (name : String) :
    Native.Sim (Alongside R) (Native.recorded name f) (Native.recorded name g) := by
  rintro args ⟨deeds, s⟩ ⟨_, t⟩ ⟨rfl, hst⟩
  have hrun := h args s t hst
  rw [Native.recorded_apply, Native.recorded_apply]
  dsimp only
  generalize (f args).run s = x, (g args).run t = y at hrun
  cases hrun with
  | failed crash => exact .failed crash
  | returned hxy => exact .returned ⟨hxy.1, rfl, hxy.2⟩

/-! ## Other native functions in place of those known -/

/-- The module with other functions in place of its own. -/
def Module.map (F : String → Native σ → Native τ) (m : Module σ) : Module τ :=
  { m with functions := m.functions.map fun a => (a.1, F a.1 a.2) }

theorem Module.map_id (m : Module σ) : m.map (fun _ f => f) = m := by
  rw [Module.map, List.map_id']

/-- Modules of which one simulates the other do so when their functions are changed alike. -/
theorem Module.Sim.map {N : String → Native σ → Native τ → Prop}
    {N' : String → Native σ' → Native τ' → Prop} {F : String → Native σ → Native σ'}
    {G : String → Native τ → Native τ'} {m : Module σ} {n : Module τ} (h : Module.Sim N m n)
    (hN : ∀ {name f g}, N name f g → N' name (F name f) (G name g)) :
    Module.Sim N' (m.map F) (n.map G) := by
  refine ⟨h.name, ?_, h.imports⟩
  have hfunctions := h.functions
  rw [Module.map, Module.map]
  generalize m.functions = fs, n.functions = gs at hfunctions
  induction hfunctions with
  | nil => exact .nil
  | @cons a b as bs hab _ ih =>
    obtain ⟨x, f⟩ := a
    obtain ⟨y, g⟩ := b
    obtain ⟨rfl, hfg⟩ : x = y ∧ N x f g := hab
    exact .cons ⟨rfl, hN hfg⟩ ih

namespace Script

/-- The object with another native function in place of its own. -/
def Object.map (F : String → Native σ → Native τ) : Object σ → Object τ
  | .none => .none
  | .int n => .int n
  | .float x => .float x
  | .bool b => .bool b
  | .str s => .str s
  | .module name => .module name
  | .function name f => .function name (F name f)
  | .builtin b => .builtin b
  | .exceptionClass c => .exceptionClass c
  | .exception e => .exception e
  | .foreign typeName => .foreign typeName
  | .unprintable => .unprintable

theorem Object.map_id (o : Object σ) : o.map (fun _ f => f) = o := by cases o <;> rfl

theorem Object.Sim.map {N : String → Native σ → Native τ → Prop}
    {N' : String → Native σ' → Native τ' → Prop} {F : String → Native σ → Native σ'}
    {G : String → Native τ → Native τ'} {o : Object σ} {p : Object τ} (h : Object.Sim N o p)
    (hN : ∀ {name f g}, N name f g → N' name (F name f) (G name g)) :
    Object.Sim N' (o.map F) (p.map G) := by
  cases h with
  | function name h => exact .function name (hN h)
  | _ => constructor

namespace Interpreter

/-- The interpreter with other native functions in place of those it knows, and another receiver
    of its prints. -/
def rewire (i : Interpreter σ) (F : String → Native σ → Native τ)
    (print : Option (String → τ → τ)) : Interpreter τ where
  globals name := (i.globals name).map (Object.map F)
  modules name := (i.modules name).map (Module.map F)
  pending := i.pending
  print := print
  osAccess := i.osAccess
  runs := i.runs

/-- An interpreter is itself if its functions and its print are left as they are. -/
theorem rewire_self (i : Interpreter σ) : i.rewire (fun _ f => f) i.print = i := by
  have hobject : Object.map (fun _ f => f) = (id : Object σ → Object σ) := funext Object.map_id
  have hmodule : Module.map (fun _ f => f) = (id : Module σ → Module σ) := funext Module.map_id
  simp only [rewire, hobject, hmodule, Option.map_id, id]

/-- Interpreters that are bound to each other stay so when their functions are changed alike,
    whatever they print with. -/
theorem Bound.rewire {N : String → Native σ → Native τ → Prop}
    {N' : String → Native σ' → Native τ' → Prop} {F : String → Native σ → Native σ'}
    {G : String → Native τ → Native τ'} {seen : String → Prop} {i : Interpreter σ}
    {j : Interpreter τ} (h : Bound N seen i j)
    (hN : ∀ {name f g}, N name f g → N' name (F name f) (G name g))
    (print : Option (String → σ' → σ')) (print' : Option (String → τ' → τ')) :
    Bound N' seen (i.rewire F print) (j.rewire G print') := by
  constructor
  · intro n hn
    have hglobal := h.globals n hn
    change Option.Rel _ ((i.globals n).map _) ((j.globals n).map _)
    generalize i.globals n = x, j.globals n = y at hglobal
    cases hglobal with
    | none => exact .none
    | some ho => exact .some (ho.map hN)
  · intro n
    have hmodule := h.modules n
    change Option.Rel _ ((i.modules n).map _) ((j.modules n).map _)
    generalize i.modules n = x, j.modules n = y at hmodule
    cases hmodule with
    | none => exact .none
    | some hm => exact .some (hm.map hN)

/-- Runs a source in a mode. -/
def input (i : Interpreter σ) : InputMode → String → Run σ (Completion × Interpreter σ)
  | .expression => i.evaluate
  | .statements => i.execute

/-- An interpreter that simulates another runs a source of either kind as the other does. -/
theorem Sim.input {R : σ → τ → Prop} {N : String → Native σ → Native τ → Prop}
    {i : Interpreter σ} {j : Interpreter τ} (h : Sim R N (fun _ => True) i j) (mode : InputMode)
    (code : String) :
    Run.Sim R (Sim.After R N (fun _ => True)) (i.input mode code) (j.input mode code) := by
  cases mode with
  | expression => exact h.evaluate code fun _ _ _ _ => trivial
  | statements => exact h.execute code fun _ _ _ _ _ _ => trivial

/-! ## What an interpreter knows -/

/-- All native functions that the interpreter knows are such, with the names they go by. -/
def Only (P : String → Native σ → Prop) (i : Interpreter σ) : Prop :=
  Bound (fun name f g => f = g ∧ P name f) (fun _ => True) i i

namespace Only

variable {P : String → Native σ → Prop} {i : Interpreter σ}

/-- What is true of all native functions is true of those an interpreter knows. -/
theorem of_forall (h : ∀ name f, P name f) : i.Only P where
  globals n _ := by
    cases i.globals n with
    | none => exact .none
    | some o => exact .some (.refl (fun name f => ⟨rfl, h name f⟩) _)
  modules n := by
    cases i.modules n with
    | none => exact .none
    | some m => exact .some (.refl (fun name f => ⟨rfl, h name f⟩) _)

/-- An interpreter simulates itself by what is true of its native functions. -/
theorem sim (h : i.Only P) : Sim Eq (fun name f g => f = g ∧ P name f) (fun _ => True) i i where
  toBound := h
  natives := fun ⟨hfg, _⟩ _ => hfg ▸ .refl _
  write _ := .refl _
  pending := rfl
  runs := rfl

/-- What a run leaves behind knows no other native functions. -/
theorem input (h : i.Only P) {mode : InputMode} {code : String} {s s' : σ}
    {completion : Completion} {after : Interpreter σ}
    (hrun : i.input mode code s = .ok ((completion, after), s')) : after.Only P := by
  have hsim := h.sim.input mode code s s rfl
  rw [hrun] at hsim
  cases hsim with
  | returned hafter => exact hafter.1.2.toBound

end Only

/-! ## The journal -/

/-- The interpreter that keeps a journal of its prints and of the calls of native functions. -/
def recorded (i : Interpreter σ) : Interpreter (List Deed × σ) :=
  i.rewire Native.recorded (some fun chunk w =>
    (w.1 ++ [.printed chunk], i.print.elim w.2 fun print => print chunk w.2))

/-- The prints and the calls of a run of a source, in order, unless it crashes. -/
def deeds? (i : Interpreter σ) (mode : InputMode) (code : String) (h : σ) :
    Option (List Deed) :=
  match i.recorded.input mode code ([], h) with
  | .ok (_, (deeds, _)) => some deeds
  | .error _ => none

/-- A chunk that is printed goes to the print of the interpreter, if there is one, and nothing is
    raised. -/
theorem write_apply (i : Interpreter σ) (chunk : String) (h : σ) :
    (i.write chunk).run h = .ok (.ok (), i.print.elim h fun print => print chunk h) := by
  rw [write]
  cases i.print with
  | none => rfl
  | some print => rfl

/-- An interpreter that keeps a journal does what it does without one, and it keeps what is true
    of the journal and the host if every print and every call keeps it. -/
theorem Only.recorded_sim {P : String → Native σ → Prop} {i : Interpreter σ} (h : i.Only P)
    {K : List Deed → σ → Prop}
    (hcall : ∀ {name f}, P name f → ∀ args deeds s r s', K deeds s →
      (f args).run s = .ok (r, s') → K (deeds ++ [.called name args]) s')
    (hprint : ∀ chunk deeds s, K deeds s →
      K (deeds ++ [.printed chunk]) (i.print.elim s fun print => print chunk s)) :
    Sim (Kept K) (fun name f g => f = Native.recorded name g ∧ P name g) (fun _ => True)
      i.recorded i where
  toBound := by
    -- The right side is rewired as well, with its own functions in their places.
    have hbound : Bound (fun name f g => f = Native.recorded name g ∧ P name g) (fun _ => True)
        i.recorded (i.rewire (fun _ f => f) i.print) :=
      h.rewire (by rintro name f _ ⟨rfl, hf⟩; exact ⟨rfl, hf⟩) _ _
    rwa [rewire_self] at hbound
  natives := by
    rintro name _ f ⟨rfl, hf⟩
    exact Native.recorded_kept (hcall hf)
  write chunk := by
    rintro w _ ⟨rfl, hk⟩
    rw [write_apply, write_apply]
    exact .returned ⟨.returned rfl, rfl, hprint chunk w.1 w.2 hk⟩
  pending := rfl
  runs := rfl

/-- A run that returns leaves a journal, and with it what every print and every call keeps. -/
theorem Only.exists_deeds {P : String → Native σ → Prop} {i : Interpreter σ} (h : i.Only P)
    {K : List Deed → σ → Prop}
    (hcall : ∀ {name f}, P name f → ∀ args deeds s r s', K deeds s →
      (f args).run s = .ok (r, s') → K (deeds ++ [.called name args]) s')
    (hprint : ∀ chunk deeds s, K deeds s →
      K (deeds ++ [.printed chunk]) (i.print.elim s fun print => print chunk s))
    {mode : InputMode} {code : String} {s s' : σ} {x : Completion × Interpreter σ} (hs : K [] s)
    (hrun : i.input mode code s = .ok (x, s')) :
    ∃ deeds, i.deeds? mode code s = some deeds ∧ K deeds s' := by
  have hsim := (h.recorded_sim hcall hprint).input mode code ([], s) s ⟨rfl, hs⟩
  rw [hrun] at hsim
  rw [deeds?]
  generalize i.recorded.input mode code ([], s) = y at hsim
  cases hsim with
  | returned hend => exact ⟨_, rfl, hend.2.2⟩

theorem exists_deeds (i : Interpreter σ) {mode : InputMode} {code : String} {s s' : σ}
    {x : Completion × Interpreter σ} (hrun : i.input mode code s = .ok (x, s')) :
    ∃ deeds, i.deeds? mode code s = some deeds := by
  have hall : i.Only fun _ _ => True := .of_forall fun _ _ => trivial
  obtain ⟨deeds, hdeeds, -⟩ := hall.exists_deeds (K := fun _ _ => True)
    (fun _ _ _ _ _ _ _ _ => trivial) (fun _ _ _ _ => trivial) trivial hrun
  exact ⟨deeds, hdeeds⟩

/-- Interpreters of which one simulates the other write the same journal. -/
theorem Sim.recorded {R : σ → τ → Prop} {N : String → Native σ → Native τ → Prop}
    {seen : String → Prop} {i : Interpreter σ} {j : Interpreter τ} (h : Sim R N seen i j) :
    Sim (Alongside R)
      (fun name f g => ∃ f' g', f = Native.recorded name f' ∧ g = Native.recorded name g' ∧
        N name f' g')
      seen i.recorded j.recorded where
  toBound := h.toBound.rewire (fun hfg => ⟨_, _, rfl, rfl, hfg⟩) _ _
  natives := by
    rintro name _ _ ⟨f, g, rfl, rfl, hfg⟩
    exact (h.natives hfg).recorded name
  write chunk := by
    rintro ⟨deeds, s⟩ ⟨_, t⟩ ⟨rfl, hst⟩
    have hwrite := h.write chunk s t hst
    rw [write_apply, write_apply] at hwrite ⊢
    cases hwrite with
    | returned hprinted => exact .returned ⟨.returned rfl, rfl, hprinted.2⟩
  pending := h.pending
  runs := h.runs

/-- An interpreter that simulates another does the same deeds from a host that is related. -/
theorem Sim.deeds? {R : σ → τ → Prop} {N : String → Native σ → Native τ → Prop}
    {i : Interpreter σ} {j : Interpreter τ} (h : Sim R N (fun _ => True) i j) (mode : InputMode)
    (code : String) {s : σ} {t : τ} (hst : R s t) :
    i.deeds? mode code s = j.deeds? mode code t := by
  have hsim := h.recorded.input mode code ([], s) ([], t) ⟨rfl, hst⟩
  rw [Interpreter.deeds?, Interpreter.deeds?]
  generalize i.recorded.input mode code ([], s) = x, j.recorded.input mode code ([], t) = y at hsim
  cases hsim with
  | failed crash => rfl
  | returned hend => exact congrArg some hend.2.1

end Interpreter

end Script

end LedBoard
