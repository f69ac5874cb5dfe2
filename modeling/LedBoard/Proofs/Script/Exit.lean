import LedBoard.Proofs.Script.Classes
import LedBoard.Proofs.Script.Failure
import LedBoard.Proofs.Script.Frame

/-!
# How runs end

A run that ends with an exception that is not caught completes as an exit if the exception is of
one of two classes, and as an error with the text of the exception otherwise; either way the
exception is left behind. Of which classes exceptions can be at all is an invariant of whatever
objects an interpreter holds: they are classes that the interpreter raises of itself, or that a
source has read by their names. It is preserved by expressions, by statements, and so by all that
can be done with an interpreter.

* `Raising.Within`: what an evaluation returns and raises is within some classes;
* `eval_within`, `run_within`, `runAll_within`: the step over the trees of expressions, a
  statement, and by induction a program;
* `History`: all that can be done with an interpreter, with the sources that were run;
* `History.holds`: the invariant of every history;
* `exits_detected`: how the runs in a history end.
-/

namespace LedBoard.Script

variable {σ α β : Type} {P : ExceptionClass → Prop}

/-! ## Objects and runs within some classes -/

/-- The class that an object is, or that it is an exception of. -/
def Object.class? : Object σ → Option ExceptionClass
  | .exceptionClass c => some c
  | .exception e => some e.kind
  | _ => Option.none

/-- If the object is a class or an exception, then of these classes. -/
def Object.Within (P : ExceptionClass → Prop) (o : Object σ) : Prop := ∀ c, o.class? = some c → P c

theorem Object.within_of_none {o : Object σ} (h : o.class? = Option.none) : o.Within P := by
  intro c hc
  cases h.symm.trans hc

theorem Object.Within.mono {Q : ExceptionClass → Prop} {o : Object σ} (h : o.Within P)
    (hPQ : ∀ c, P c → Q c) : o.Within Q :=
  fun c hc => hPQ c (h c hc)

/-- What was returned is such, and what was raised is of these classes. -/
def Settled (P : ExceptionClass → Prop) (A : α → Prop) : Except Exception α → Prop
  | .ok a => A a
  | .error e => P e.kind

theorem Settled.raised {A : α → Prop} {x : Except Exception α} {e : Exception}
    (h : Settled P A x) (hx : x = .error e) : P e.kind := by
  rw [hx] at h
  exact h

/-- Whatever is returned is such, and whatever is raised is of these classes. -/
def Raising.Within (P : ExceptionClass → Prop) (A : α → Prop) (m : Raising σ α) : Prop :=
  Run.Returns (Settled P A) m.run

/-- Nothing is known of what is returned. -/
abbrev Anything : α → Prop := fun _ => True

namespace Raising.Within

variable {A : α → Prop} {B : β → Prop}

theorem pure {a : α} (h : A a) : Within P A (Pure.pure a : Raising σ α) :=
  Run.Returns.pure (P := Settled P A) (a := .ok a) h

theorem throw {e : Exception} (h : P e.kind) : Within P A (throw e : Raising σ α) :=
  Run.Returns.pure (P := Settled P A) (a := .error e) h

theorem crash (crash : Crash) : Within P A (throwThe Crash crash : Raising σ α) := by
  intro s x s' h
  cases h

/-- A run in two parts raises only exceptions that one of the parts may raise. -/
theorem bind {m : Raising σ α} {f : α → Raising σ β} (h : Within P A m)
    (hf : ∀ a, A a → Within P B (f a)) : Within P B (m >>= f) := by
  refine Run.Returns.bind h fun x hx => ?_
  cases x with
  | error e => exact .pure hx
  | ok a => exact hf a hx

/-- What acts on the host alone raises nothing. -/
theorem lift (m : Run σ α) : Within P Anything (liftM m : Raising σ α) :=
  Run.Returns.of_bind fun _ => Run.Returns.pure trivial

theorem ofExcept {x : Except Exception α} (h : Settled P A x) :
    Within P A (ofExcept x : Raising σ α) := by
  cases x with
  | error e => exact throw h
  | ok a => exact pure h

theorem map {m : Raising σ α} {f : α → β} (h : Within P A m) (hf : ∀ a, A a → B (f a)) :
    Within P B (f <$> m) :=
  h.bind fun a ha => pure (hf a ha)

end Raising.Within

/-- The classes of the exceptions that an interpreter raises of itself. -/
def ExceptionClass.own : List ExceptionClass :=
  [.systemExit, .typeError, .valueError, .nameError, .runtimeError, .zeroDivisionError,
   .attributeError, .importError, .syntaxError]

/-- Among the classes are those that an interpreter raises of itself. -/
def Own (P : ExceptionClass → Prop) : Prop := ∀ c ∈ ExceptionClass.own, P c

theorem Object.repr_settled (hown : Own P) (o : Object σ) : Settled P Anything o.repr := by
  cases o with
  | unprintable => exact hown .runtimeError (by decide)
  | bool b => cases b <;> trivial
  | _ => trivial

theorem Object.text_settled (hown : Own P) (o : Object σ) : Settled P Anything o.text := by
  rw [text.eq_def]
  split
  · trivial
  · exact repr_settled hown _

/-- The texts of arguments fail with such a class, if one of them does. -/
theorem mapM_text_settled (hown : Own P) (args : List (Object σ)) :
    Settled P Anything (args.mapM Object.text) := by
  induction args with
  | nil => trivial
  | cons arg rest ih =>
    rw [List.mapM_cons]
    cases htext : arg.text with
    | error e => exact (arg.text_settled hown).raised htext
    | ok text =>
      cases hrest : rest.mapM Object.text with
      | error e => exact ih.raised hrest
      | ok texts => trivial

namespace Interpreter

variable {i : Interpreter σ}

/-! ## Operations -/

/-- A predefined name stands for a class of this name, or for no class at all. -/
theorem predefined?_within {name : String} (hname : ∀ c, ExceptionClass.ofName? name = some c → P c)
    {o : Object σ} (h : predefined? name = some o) : o.Within P := by
  rw [predefined?] at h
  split_ifs at h
  all_goals try exact Option.some.inj h ▸ Object.within_of_none rfl
  -- Of what every script finds bound, only the classes are left.
  obtain ⟨c, hc, rfl⟩ := Option.map_eq_some_iff.1 h
  rintro _ ⟨⟩
  exact hname c hc

/-- Whatever class or exception the interpreter holds is within the classes. -/
structure Holds (P : ExceptionClass → Prop) (i : Interpreter σ) : Prop where
  globals : ∀ n o, i.globals n = some o → o.Within P
  pending : ∀ e, i.pending = some e → P e.kind

/-- A name stands for an object that is held or for what is predefined, or is an error of the
    interpreter's own. -/
theorem lookup_settled (hi : i.Holds P) (hown : Own P) {name : String}
    (hname : ∀ c, ExceptionClass.ofName? name = some c → P c) :
    Settled P (Object.Within P) (i.lookup name) := by
  rw [lookup]
  cases hglobal : i.globals name with
  | some o => exact hi.globals name o hglobal
  | none =>
    cases hpredefined : (predefined? name : Option (Object σ)) with
    | some o => exact predefined?_within hname hpredefined
    | none => exact hown .nameError (by decide)

theorem moduleOf_settled (hown : Own P) (name : String) :
    Settled P Anything (i.moduleOf name) := by
  rw [moduleOf]
  cases i.modules name with
  | some m => trivial
  | none => exact hown .importError (by decide)

/-- A member of a module is a native function or another module, and one that is missing is an error
    of the interpreter's own. -/
theorem member_settled (hown : Own P) (m : Module σ) (name : String) :
    Settled P (Object.Within P) (member m name) := by
  rw [member]
  cases m.function? name with
  | some f => exact Object.within_of_none rfl
  | none =>
    dsimp only
    split
    · exact Object.within_of_none rfl
    · exact hown .attributeError (by decide)

theorem attribute_settled (hown : Own P) (m name : String) :
    Settled P (Object.Within P) (i.moduleOf m >>= (member · name)) := by
  cases h : i.moduleOf m with
  | error e => exact (moduleOf_settled hown m).raised h
  | ok m => exact member_settled hown m name

/-- A negation has an integer for its value, or is an error of the interpreter's own. -/
theorem negate_within (hown : Own P) (o : Object σ) :
    Raising.Within P (Object.Within P) (negate o : Raising σ (Object σ)) := by
  cases o with
  | int n =>
    rw [negate]
    split
    · exact .crash _
    · exact .pure (Object.within_of_none rfl)
  | _ => exact .throw (hown .typeError (by decide))

/-- An operation on integers raises only a division by zero. -/
theorem arithmetic_within (hown : Own P) (op : Operator) (a b : Int64) :
    Raising.Within P Anything (arithmetic op a b : Raising σ Int64) := by
  cases op with
  | div =>
    rw [arithmetic]
    split_ifs
    · exact .throw (hown .zeroDivisionError (by decide))
    · exact .crash _
    · exact .pure trivial
  | _ => exact .pure trivial

/-- An operation has no class for its value, and its errors are of the interpreter's own. -/
theorem operate_within (hown : Own P) (op : Operator) (a b : Object σ) :
    Raising.Within P (Object.Within P) (operate op a b : Raising σ (Object σ)) := by
  rw [operate.eq_def]
  split
  · exact (arithmetic_within hown _ _ _).map fun _ _ => Object.within_of_none rfl
  · exact .pure (Object.within_of_none rfl)
  · exact .throw (hown .typeError (by decide))

theorem ofValue_within (v : Value) : (Object.ofValue v : Object σ).Within P := by
  cases v <;> exact Object.within_of_none rfl

/-- What a native function refuses with is of one of the interpreter's own classes. -/
theorem ofScriptError_own (hown : Own P) (e : ScriptError) :
    P (Exception.ofScriptError e).kind := by
  rw [Exception.ofScriptError]
  cases e.kind with
  | typeError => exact hown .typeError (by decide)
  | valueError => exact hown .valueError (by decide)

/-- What is printed raises nothing. -/
theorem write_within (i : Interpreter σ) (chunk : String) :
    Raising.Within P Anything (i.write chunk) := by
  rw [write]
  cases i.print with
  | none => exact .pure trivial
  | some print =>
    rintro s _ _ ⟨⟩
    exact trivial

/-- A call returns an exception only of the class that is called; what a native function returns
    is neither a class nor an exception. -/
theorem call_within (hown : Own P) {callee : Object σ} (hcallee : callee.Within P)
    (args : List (Object σ)) : Raising.Within P (Object.Within P) (i.call callee args) := by
  cases callee with
  | function name f =>
    refine .bind (.lift _) fun result _ => ?_
    cases result with
    | ok v => exact .pure (ofValue_within v)
    | error e => exact .throw (ofScriptError_own hown e)
  | builtin b =>
    cases b with
    | print =>
      refine .bind (.ofExcept (mapM_text_settled hown args)) fun texts _ => ?_
      exact (write_within i _).bind fun _ _ => .pure (Object.within_of_none rfl)
    | exit => exact .throw (hown .systemExit (by decide))
  | exceptionClass c =>
    have hc : (Object.exception ⟨c, ""⟩ : Object σ).Within P := hcallee
    cases args with
    | nil => exact .pure hcallee
    | cons arg rest =>
      exact .bind (.ofExcept (arg.text_settled hown)) fun text _ => .pure hcallee
  | _ => exact .throw (hown .typeError (by decide))

mutual

/-- An expression comes to a class only by what is held or by a name that it reads. -/
theorem eval_within (hi : i.Holds P) (hown : Own P) :
    ∀ e : Expr, (∀ n ∈ e.names, ∀ c, ExceptionClass.ofName? n = some c → P c) →
      Raising.Within P (Object.Within P) (i.eval e)
  | .int n, _ => by
    rw [eval]
    exact .pure (Object.within_of_none rfl)
  | .str s, _ => by
    rw [eval]
    exact .pure (Object.within_of_none rfl)
  | .name n, hnames => by
    rw [eval]
    exact .ofExcept (lookup_settled hi hown (hnames n (List.mem_singleton_self n)))
  | .neg e, hnames => by
    rw [eval]
    exact (eval_within hi hown e hnames).bind fun o _ => negate_within hown o
  | .binary op left right, hnames => by
    obtain ⟨hleft, hright⟩ := List.forall_mem_append.1 hnames
    rw [eval]
    refine (eval_within hi hown left hleft).bind fun a _ => ?_
    exact (eval_within hi hown right hright).bind fun b _ => operate_within hown op a b
  -- Only a name can stand for a class, so in the other cases the classes are those of the parts.
  | .attr e name, hnames => by
    rw [eval]
    -- An attribute is a member of a module, so it is no class.
    refine (eval_within hi hown e hnames).bind fun o _ => ?_
    cases o with
    | module m => exact .ofExcept (attribute_settled hown m name)
    | _ => exact .throw (hown .attributeError (by decide))
  | .call callee args, hnames => by
    obtain ⟨hcallee, hargs⟩ := List.forall_mem_append.1 hnames
    rw [eval]
    refine (eval_within hi hown callee hcallee).bind fun f hf => ?_
    exact (evalAll_within hi hown args hargs).bind fun values _ => call_within hown hf values

/-- Arguments that are evaluated raise what one of them may raise. -/
theorem evalAll_within (hi : i.Holds P) (hown : Own P) :
    ∀ es : List Expr, (∀ n ∈ Expr.allNames es, ∀ c, ExceptionClass.ofName? n = some c → P c) →
      Raising.Within P Anything (i.evalAll es)
  | [], _ => by
    rw [evalAll]
    exact .pure trivial
  | e :: rest, hnames => by
    obtain ⟨he, hrest⟩ := List.forall_mem_append.1 hnames
    rw [evalAll]
    refine (eval_within hi hown e he).bind fun v _ => ?_
    exact (evalAll_within hi hown rest hrest).bind fun vs _ => .pure trivial

end

/-! ## Statements -/

/-- The run of a statement ended within the classes, and so is what is held afterwards. -/
def Leaves (P : ExceptionClass → Prop) (x : Except Exception α × Interpreter σ) : Prop :=
  Settled P Anything x.1 ∧ x.2.Holds P

/-- An object that is within the classes may be held under any name. -/
theorem Holds.bind (hi : i.Holds P) (name : String) {o : Object σ} (ho : o.Within P) :
    (i.bind name o).Holds P where
  globals n p hp := by
    change i.globals.bind name o n = some p at hp
    by_cases hn : n = name
    · subst hn
      rw [Bindings.bind_self] at hp
      exact Option.some.inj hp ▸ ho
    · rw [Bindings.bind_ne _ hn] at hp
      exact hi.globals n p hp
  pending := hi.pending

theorem Holds.bindFunctions (hi : i.Holds P) (fs : List (String × Native σ)) :
    (i.bindFunctions fs).Holds P := by
  induction fs generalizing i with
  | nil => exact hi
  | cons x rest ih => exact ih (hi.bind x.1 (Object.within_of_none rfl))

/-- Modules may be held under their names, and the first one that is missing is an error of the
    interpreter's own. -/
theorem Holds.bindModules (hi : i.Holds P) (hown : Own P) (names : List String) :
    Leaves P (i.bindModules names) := by
  induction names generalizing i with
  | nil => exact ⟨trivial, hi⟩
  | cons name rest ih =>
    rw [Interpreter.bindModules]
    cases h : i.moduleOf name with
    | error e => exact ⟨(moduleOf_settled hown name).raised h, hi⟩
    | ok m => exact ih (hi.bind name (Object.within_of_none rfl))

/-- An object that is raised becomes an exception of its class, or an error of the interpreter's own
    if it has none. -/
theorem raised_kind (hown : Own P) {o : Object σ} (ho : o.Within P) : P (raised o).kind := by
  cases o with
  | exceptionClass c => exact ho c rfl
  | exception e => exact ho e.kind rfl
  | _ => exact hown .typeError (by decide)

/-- A statement comes to a class only by what is held or by a name that it reads, and so does what
    it leaves behind. -/
theorem run_within (hi : i.Holds P) (hown : Own P) (st : Stmt)
    (hnames : ∀ n ∈ st.names, ∀ c, ExceptionClass.ofName? n = some c → P c) :
    (i.run st).Returns (Leaves P) := by
  cases st with
  | expr e =>
    refine .bind (eval_within hi hown e hnames) fun result hresult => ?_
    cases result with
    | error e => exact .pure ⟨hresult, hi⟩
    | ok o => exact .pure ⟨trivial, hi⟩
  | assign target e =>
    refine .bind (eval_within hi hown e hnames) fun result hresult => ?_
    cases result with
    | error e => exact .pure ⟨hresult, hi⟩
    | ok o => exact .pure ⟨trivial, hi.bind target hresult⟩
  | importModule name =>
    rw [run]
    cases h : i.moduleOf name with
    | error e => exact .pure ⟨(moduleOf_settled hown name).raised h, hi⟩
    | ok m => exact .pure ⟨trivial, hi.bind name (Object.within_of_none rfl)⟩
  | importAll name =>
    rw [run]
    cases h : i.moduleOf name with
    | error e => exact .pure ⟨(moduleOf_settled hown name).raised h, hi⟩
    | ok m => exact .pure ((hi.bindFunctions m.functions).bindModules hown m.imports)
  | raise e =>
    refine .bind (eval_within hi hown e hnames) fun result hresult => ?_
    cases result with
    | error e => exact .pure ⟨hresult, hi⟩
    | ok o => exact .pure ⟨raised_kind hown hresult, hi⟩

/-- Statements do so one after the other. -/
theorem runAll_within (hi : i.Holds P) (hown : Own P) (ss : List Stmt)
    (hnames : ∀ n ∈ ss.flatMap Stmt.names, ∀ c, ExceptionClass.ofName? n = some c → P c) :
    (i.runAll ss).Returns (Leaves P) := by
  induction ss generalizing i with
  | nil => exact .pure ⟨trivial, hi⟩
  | cons st rest ih =>
    rw [List.flatMap_cons] at hnames
    obtain ⟨hst, hrest⟩ := List.forall_mem_append.1 hnames
    refine .bind (run_within hi hown st hst) fun x hx => ?_
    obtain ⟨result, j⟩ := x
    cases result with
    | error e => exact .pure hx
    | ok _ => exact ih hx.2 hrest

/-! ## Sources -/

/-- The names that a source reads. -/
def reads : InputMode → String → List String
  | .expression, code => ((expressionOf? code).map Expr.names).getD []
  | .statements, code => ((programOf? code).map (·.flatMap Stmt.names)).getD []

/-- How the run of a source ends, before it is told. -/
def outcome (i : Interpreter σ) :
    InputMode → String → Run σ (Except Exception (Object σ) × Interpreter σ)
  | .expression, code =>
    match expressionOf? code with
    | none => pure (.error .badSource, i.counted)
    | some e => (fun result => (result, i.counted)) <$> (i.counted.eval e).run
  | .statements, code =>
    match programOf? code with
    | none => pure (.error .badSource, i.counted)
    | some ss => (fun x => (x.1.map fun _ => .none, x.2)) <$> i.counted.runAll ss

/-- The run of a source is completed according to how it ends. -/
theorem input_eq_outcome (i : Interpreter σ) (mode : InputMode) (code : String) :
    i.input mode code = (fun x => x.2.complete x.1) <$> i.outcome mode code := by
  cases mode with
  | expression =>
    rw [input, outcome]
    cases h : expressionOf? code with
    | none =>
      rw [evaluate, h]
      rfl
    | some e =>
      rw [i.evaluate_eq h]
      dsimp only
      rw [Functor.map_map]
  | statements =>
    rw [input, outcome]
    cases h : programOf? code with
    | none =>
      rw [execute, h]
      rfl
    | some ss =>
      rw [i.execute_eq h]
      dsimp only
      rw [Functor.map_map]

theorem Holds.counted (hi : i.Holds P) : i.counted.Holds P := ⟨hi.globals, hi.pending⟩

/-- A source ends with a class that is held, the interpreter's own or named in it, and what is held
    afterwards is so too. A source that cannot be read is a syntax error. -/
theorem outcome_within (hi : i.Holds P) (hown : Own P) (mode : InputMode) (code : String)
    (hnames : ∀ n ∈ reads mode code, ∀ c, ExceptionClass.ofName? n = some c → P c) :
    (i.outcome mode code).Returns (Leaves P) := by
  -- A source that cannot be read is the interpreter's own error, in both modes.
  -- A source that cannot be read is the interpreter's own error, in both modes.
  have hbad : P Exception.badSource.kind := hown .syntaxError (by decide)
  cases mode with
  | expression =>
    rw [outcome]
    rw [reads] at hnames
    cases h : expressionOf? code with
    | none => exact .pure ⟨hbad, hi.counted⟩
    | some e =>
      rw [h] at hnames
      dsimp only
      refine .map (eval_within hi.counted hown e hnames) fun result hresult => ?_
      cases result with
      | error e => exact ⟨hresult, hi.counted⟩
      | ok o => exact ⟨trivial, hi.counted⟩
  | statements =>
    rw [outcome]
    rw [reads] at hnames
    cases h : programOf? code with
    | none => exact .pure ⟨hbad, hi.counted⟩
    | some ss =>
      rw [h] at hnames
      dsimp only
      refine .map (runAll_within hi.counted hown ss hnames) fun x hx => ?_
      obtain ⟨result, j⟩ := x
      cases result with
      | error e => exact hx
      | ok _ => exact hx

/-- An exception that a run leaves behind when it is completed is one that ended it, or says that
    its value has no representation. -/
theorem Holds.complete (hi : i.Holds P) (hown : Own P) {result : Except Exception (Object σ)}
    (hresult : Settled P Anything result) : (i.complete result).2.Holds P := by
  rw [Interpreter.complete.eq_def]
  split
  · exact hi
  next o _ =>
    cases hshown : o.repr with
    | ok text => exact hi
    | error x =>
      have hx : P x.kind := (o.repr_settled hown).raised hshown
      exact ⟨hi.globals, fun e he => Option.some.inj he ▸ hx⟩
  next x => exact ⟨hi.globals, fun e he => Option.some.inj he ▸ hresult⟩

/-! ## Histories -/

/-- All that can be done with an interpreter, and the sources that were run on it. -/
inductive History (config : EngineConfig σ) : List (InputMode × String) → Interpreter σ → Prop
  | created : History config [] (.create config)
  | function {sources : List (InputMode × String)} {i : Interpreter σ}
      (h : History config sources i) (name : String) (f : Native σ) :
      History config sources (i.bind name (.function name f))
  | module {sources : List (InputMode × String)} {i : Interpreter σ}
      (h : History config sources i) (m : Module σ) : History config sources (i.register m)
  | cleared {sources : List (InputMode × String)} {i : Interpreter σ}
      (h : History config sources i) : History config sources i.clearPending
  | ran {sources : List (InputMode × String)} {i j : Interpreter σ} (h : History config sources i)
      {mode : InputMode} {code : String} {completion : Completion} {s s' : σ}
      (hrun : i.input mode code s = .ok ((completion, j), s')) :
      History config (sources ++ [(mode, code)]) j

/-- One of the classes in the table, whose exceptions are raised by the interpreter itself, or
    which a source has read by its name. In the table are all classes that there are; that no other
    string comes to be a class is said where strings do (`ExceptionClass.mem_table_iff`). -/
structure Known (sources : List (InputMode × String)) (c : ExceptionClass) : Prop where
  table : c.name ∈ ExceptionClass.table.map (·.1)
  origin : c ∈ ExceptionClass.own ∨ ∃ x ∈ sources, c.name ∈ reads x.1 x.2

/-- The classes of the interpreter's own errors are always known. -/
theorem known_own (sources : List (InputMode × String)) : Own (Known sources) :=
  fun c hc => ⟨c.name_mem_table, .inl hc⟩

/-- A class that is known stays known when more sources are run. -/
theorem Known.mono {sources more : List (InputMode × String)} {c : ExceptionClass}
    (h : Known sources c) : Known (sources ++ more) c :=
  ⟨h.table, h.origin.imp_right fun ⟨x, hx, hc⟩ => ⟨x, List.mem_append_left _ hx, hc⟩⟩

/-- A class whose name a source reads is known when the source has been run. -/
theorem known_of_reads (sources : List (InputMode × String)) {mode : InputMode} {code n : String}
    (hn : n ∈ reads mode code) {c : ExceptionClass} (hc : ExceptionClass.ofName? n = some c) :
    Known (sources ++ [(mode, code)]) c := by
  obtain rfl := ExceptionClass.name_of_ofName? hc
  exact ⟨c.name_mem_table, .inr ⟨_, List.mem_append_right _ (List.mem_singleton_self _), hn⟩⟩

/-- What is held is within more classes as well. So an interpreter that holds what is known before a
    source holds what is known with it. -/
theorem Holds.mono {Q : ExceptionClass → Prop} (hi : i.Holds P) (hPQ : ∀ c, P c → Q c) :
    i.Holds Q :=
  ⟨fun n o ho => (hi.globals n o ho).mono hPQ, fun e he => hPQ _ (hi.pending e he)⟩

/-- A source that was run to a completion had a result, from which the completion and the
    interpreter were made. So what is proved of every result holds of every run that is reported. -/
theorem exists_outcome {mode : InputMode} {code : String} {s s' : σ} {completion : Completion}
    {j : Interpreter σ} (h : i.input mode code s = .ok ((completion, j), s')) :
    ∃ result k, i.outcome mode code s = .ok ((result, k), s') ∧
      k.complete result = (completion, j) := by
  rw [input_eq_outcome, Run.map_apply] at h
  cases hrun : i.outcome mode code s with
  | error crash =>
    rw [hrun] at h
    cases h
  | ok x =>
    obtain ⟨⟨result, k⟩, s''⟩ := x
    rw [hrun] at h
    have hcomplete := Except.ok.inj h
    obtain rfl : s'' = s' := congrArg Prod.snd hcomplete
    exact ⟨result, k, rfl, congrArg Prod.fst hcomplete⟩

/-- How a source ends that is run on an interpreter with a history. -/
theorem Holds.outcome {sources : List (InputMode × String)} (hi : i.Holds (Known sources))
    (mode : InputMode) (code : String) :
    (i.outcome mode code).Returns (Leaves (Known (sources ++ [(mode, code)]))) :=
  outcome_within (hi.mono fun _ hc => hc.mono) (known_own _) mode code
    fun _ hn _ hc => known_of_reads sources hn hc

/-- At any time in a history, whatever class or exception is held is known. -/
theorem History.holds {config : EngineConfig σ} {sources : List (InputMode × String)}
    (h : History config sources i) : i.Holds (Known sources) := by
  induction h with
  | created => exact ⟨nofun, nofun⟩
  | function _ name f ih => exact ih.bind name (Object.within_of_none rfl)
  | module _ m ih => exact ⟨ih.globals, ih.pending⟩
  | cleared _ ih => exact ⟨ih.globals, nofun⟩
  | @ran sources i j _ mode code _ s s' hrun ih =>
    -- What was known before stays known, and the names that the source reads are known now.
    obtain ⟨result, k, hends, hcomplete⟩ := exists_outcome hrun
    obtain ⟨hresult, hk⟩ := ih.outcome mode code s _ s' hends
    have hj := hk.complete (known_own _) hresult
    rw [hcomplete] at hj
    exact hj

/-- How a run that ends with this result is told, and the interpreter that it leaves behind. -/
structure Told (result : Except Exception (Object σ)) (completion : Completion)
    (j : Interpreter σ) : Prop where
  exit : completion = .exit ↔
    ∃ e, result = .error e ∧ (e.kind.name = "SystemExit" ∨ e.kind.name = "ShutdownExit")
  error : ∀ text, completion = .error text ↔
    ∃ e, result = .error e ∧ ¬(e.kind.name = "SystemExit" ∨ e.kind.name = "ShutdownExit") ∧
      text = e.text
  pending : ∀ e, result = .error e → j.pending = some e

/-- How a run is reported tells how it ended: an exit and an error are told apart by the class of
    the exception, which is left behind in both cases. -/
theorem told_of_complete {result : Except Exception (Object σ)} {k j : Interpreter σ}
    {completion : Completion} (h : k.complete result = (completion, j)) :
    Told result completion j := by
  cases result with
  | error e =>
    rw [complete_error, Exception.completion] at h
    obtain ⟨rfl, rfl⟩ := Prod.mk.inj h
    have hpending (x : Exception) (hx : (.error e : Except Exception (Object σ)) = .error x) :
        some e = some x := congrArg some (Except.error.inj hx)
    cases hexit : e.asksToExit with
    | true =>
      have hclass := Exception.asksToExit_iff.1 hexit
      refine ⟨iff_of_true rfl ⟨e, rfl, hclass⟩, fun text => iff_of_false nofun ?_, hpending⟩
      rintro ⟨_, ⟨⟩, hother, -⟩
      exact hother hclass
    | false =>
      have hclass : ¬(e.kind.name = "SystemExit" ∨ e.kind.name = "ShutdownExit") := fun h =>
        Bool.false_ne_true (hexit.symm.trans (Exception.asksToExit_iff.2 h))
      refine ⟨iff_of_false nofun ?_, fun text => ⟨?_, ?_⟩, hpending⟩
      · rintro ⟨_, ⟨⟩, hexits⟩
        exact hclass hexits
      · rintro ⟨⟩
        exact ⟨e, rfl, hclass, rfl⟩
      · rintro ⟨_, ⟨⟩, -, rfl⟩
        rfl
  | ok o =>
    have hcompletion : completion = .noValue ∨ (∃ text, completion = .value text) ∨
        ∃ text, completion = .valueError text := by
      cases hrepr : o.repr with
      | error x =>
        rw [complete_of_unshown hrepr] at h
        exact .inr (.inr ⟨_, (congrArg Prod.fst h).symm⟩)
      | ok text =>
        have hshown := complete_of_shown (i := k) hrepr
        rw [h] at hshown
        exact hshown.imp_right fun htext => .inl ⟨text, htext⟩
    -- A run with a value is told by its value, so there is no exception on either side.
    have hok {e : Exception} : (.ok o : Except Exception (Object σ)) ≠ .error e := nofun
    refine ⟨iff_of_false ?_ fun ⟨e, he, _⟩ => hok he,
      fun text => iff_of_false ?_ fun ⟨e, he, _⟩ => hok he, fun e he => absurd he hok⟩ <;>
    · rcases hcompletion with rfl | ⟨_, rfl⟩ | ⟨_, rfl⟩ <;> exact nofun

/-- At any time in a history, the classes and exceptions that an interpreter holds are known; and
    every run that is then completed is an exit if it ended with an exception of one of two
    classes, and an error that tells the exception if it ended with any other, and either way
    the exception is left behind. A string that a source looks up is a class just if it is a name in
    the table, then it is the class of this name, and so it is with what native functions raise.
    Which class derives from which can be told by a walk up the parents, which ends wherever it
    began. -/
theorem exits_detected {config : EngineConfig σ} {sources : List (InputMode × String)}
    (h : History config sources i) :
    (∀ n o c, i.globals n = some o → o.class? = some c → Known sources c) ∧
    (∀ e, i.pending = some e → Known sources e.kind) ∧
    (∀ n, n ∈ ExceptionClass.table.map (·.1) ↔ ∃ c, ExceptionClass.ofName? n = some c) ∧
    (∀ n c, ExceptionClass.ofName? n = some c → c.name = n) ∧
    (∀ k : ErrorKind, (Exception.classOfKind k).name = k.name) ∧
    (∀ n, ExceptionClass.climb 3 n = none) ∧
    (∀ c b : ExceptionClass, c.derivesFrom b = true ↔
      ∃ k, ExceptionClass.climb k c.name = some b.name) ∧
    ∀ mode code s completion j s', i.input mode code s = .ok ((completion, j), s') →
      ∃ result k, i.outcome mode code s = .ok ((result, k), s') ∧
        k.complete result = (completion, j) ∧ Told result completion j ∧
        ∀ e, result = .error e → Known (sources ++ [(mode, code)]) e.kind := by
  refine ⟨fun n o c ho => h.holds.globals n o ho c, h.holds.pending,
    fun n => ExceptionClass.mem_table_iff, fun n c => ExceptionClass.name_of_ofName?,
    Exception.name_classOfKind, ExceptionClass.climb_three,
    fun c b => ExceptionClass.derivesFrom_iff_climb, fun mode code s completion j s' hrun => ?_⟩
  -- What is known of every result of the source is known of the one that this run has come to.
  obtain ⟨result, k, hends, hcomplete⟩ := exists_outcome hrun
  obtain ⟨hresult, -⟩ := h.holds.outcome mode code s _ s' hends
  refine ⟨result, k, hends, hcomplete, told_of_complete hcomplete, ?_⟩
  rintro e rfl
  exact hresult

/-- The first script that an interpreter runs raises a class that derives from another. -/
theorem exits_detected_shutdown : ∃ (completion : Completion) (j : Interpreter Unit),
    (Interpreter.create {} : Interpreter Unit).input .statements "raise ShutdownExit" () =
      .ok ((completion, j), ()) ∧
    completion = .exit ∧ j.pending = some ⟨.shutdownExit, ""⟩ := by
  have htokens : tokenize "raise ShutdownExit".toList =
      some [.name "raise", .name "ShutdownExit"] := by
    decide +kernel
  have hread : programOf? "raise ShutdownExit" = some [.raise (.name "ShutdownExit")] := by
    rw [programOf?, htokens]
    exact Grammar.read_program
      (.statements 0 (.last (.raise (.mk (.mk (.plain (.mk (.name _ rfl) .nil)) .nil) .nil)) 0))
  have hends : (Interpreter.create {} : Interpreter Unit).outcome .statements
      "raise ShutdownExit" () = .ok ((.error ⟨.shutdownExit, ""⟩, (create {}).counted), ()) := by
    rw [outcome, hread]
    rfl
  have hrun : (Interpreter.create {} : Interpreter Unit).input .statements
      "raise ShutdownExit" () =
        .ok ((create {}).counted.complete (.error ⟨.shutdownExit, ""⟩), ()) := by
    rw [input_eq_outcome, Run.map_apply, hends]
    rfl
  obtain ⟨result, k, hends', -, htold, -⟩ :=
    (exits_detected .created).2.2.2.2.2.2.2 _ _ _ _ _ _ hrun
  cases hends.symm.trans hends'
  exact ⟨_, _, hrun, htold.exit.2 ⟨_, rfl, .inr rfl⟩, htold.pending _ rfl⟩

end Interpreter

end LedBoard.Script
