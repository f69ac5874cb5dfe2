import LedBoard.Proofs.Script.Frame
import LedBoard.Proofs.Script.Midway
import LedBoard.Proofs.Script.Modes

/-!
# Names that a program does not mention

A program cannot tell what a name is bound to that it does not spell: two interpreters that
differ in this binding alone run it alike. The names that a program reads, and those that its
assignments and imports bind, all are tokens of it, which is seen along its derivation. So the
one interpreter simulates the other as far as all other names are concerned.

That the name keeps its binding is true for the same reason, with one exception: an import of
everything binds names that are spelled in the module and not in the program.

* `Statement.name_mem_tokens_of_reads`, `Statement.name_mem_tokens_of_binds`: what a statement
  reads and binds are tokens of it;
* `run_globals`, `runAll_globals`: what a statement, and then a program, does to the binding;
* `unmentioned_indifferent`: the two runs compared.
-/

namespace LedBoard.Script

/-! ## Names are tokens -/

/-- The name that a statement spells in order to bind it. -/
def Stmt.target? : Stmt → Option String
  | .assign target _ => some target
  | .importModule name => some name
  | .expr _ | .importAll _ | .raise _ => none

/-- The text has no token that is this name. -/
def Unmentioned (n code : String) : Prop :=
  ∀ ts, tokenize code.toList = some ts → Token.name n ∉ ts

namespace Grammar

variable {n : String}

mutual

/-- A name that an expression reads is one of its tokens. -/
theorem Expression.name_mem_tokens (d : Expression) (h : n ∈ d.tree.names) :
    Token.name n ∈ d.tokens := by
  match d with
  | .mk first rest =>
    rw [Expression.tree] at h
    rw [Expression.tokens, List.mem_append]
    exact (rest.name_mem_tokens _ h).imp_left first.name_mem_tokens

/-- Where terms are joined to a tree, a name is read by this tree or is among their tokens. -/
theorem Terms.name_mem_tokens (d : Terms) (left : Expr) (h : n ∈ (d.tree left).names) :
    n ∈ left.names ∨ Token.name n ∈ d.tokens := by
  match d with
  | .nil => exact .inl h
  | .cons sign t rest =>
    rw [Terms.tree] at h
    rw [Terms.tokens, List.mem_cons, List.mem_append]
    rcases rest.name_mem_tokens _ h with hjoined | hrest
    · rw [Expr.names, List.mem_append] at hjoined
      exact hjoined.imp_right fun ht => .inr (.inl (t.name_mem_tokens ht))
    · exact .inr (.inr (.inr hrest))

theorem Term.name_mem_tokens (d : Term) (h : n ∈ d.tree.names) : Token.name n ∈ d.tokens := by
  match d with
  | .mk first rest =>
    rw [Term.tree] at h
    rw [Term.tokens, List.mem_append]
    exact (rest.name_mem_tokens _ h).imp_left first.name_mem_tokens

/-- Where factors are joined to a tree, a name is read by this tree or is among their tokens. -/
theorem Factors.name_mem_tokens (d : Factors) (left : Expr) (h : n ∈ (d.tree left).names) :
    n ∈ left.names ∨ Token.name n ∈ d.tokens := by
  match d with
  | .nil => exact .inl h
  | .cons sign u rest =>
    rw [Factors.tree] at h
    rw [Factors.tokens, List.mem_cons, List.mem_append]
    rcases rest.name_mem_tokens _ h with hjoined | hrest
    · rw [Expr.names, List.mem_append] at hjoined
      exact hjoined.imp_right fun hu => .inr (.inl (u.name_mem_tokens hu))
    · exact .inr (.inr (.inr hrest))

theorem Unary.name_mem_tokens (d : Unary) (h : n ∈ d.tree.names) : Token.name n ∈ d.tokens := by
  match d with
  | .neg u =>
    rw [Unary.tree, Expr.names] at h
    exact List.mem_cons_of_mem _ (u.name_mem_tokens h)
  | .plain p =>
    rw [Unary.tree] at h
    rw [Unary.tokens]
    exact p.name_mem_tokens h

theorem Postfix.name_mem_tokens (d : Postfix) (h : n ∈ d.tree.names) :
    Token.name n ∈ d.tokens := by
  match d with
  | .mk head rest =>
    rw [Postfix.tree] at h
    rw [Postfix.tokens, List.mem_append]
    exact (rest.name_mem_tokens _ h).imp_left head.name_mem_tokens

/-- Suffixes add the names of their arguments only, since the name of an attribute is not read. -/
theorem Suffixes.name_mem_tokens (d : Suffixes) (e : Expr) (h : n ∈ (d.tree e).names) :
    n ∈ e.names ∨ Token.name n ∈ d.tokens := by
  match d with
  | .nil => exact .inl h
  | .attr name rest =>
    rw [Suffixes.tree] at h
    refine (rest.name_mem_tokens _ h).imp_right fun hrest => ?_
    exact List.mem_cons_of_mem _ (List.mem_cons_of_mem _ hrest)
  | .call args rest =>
    rw [Suffixes.tree] at h
    rw [Suffixes.tokens, List.mem_cons, List.mem_append, List.mem_cons]
    rcases rest.name_mem_tokens _ h with hcall | hrest
    · rw [Expr.names, List.mem_append] at hcall
      exact hcall.imp_right fun hargs => .inr (.inl (args.name_mem_tokens hargs))
    · exact .inr (.inr (.inr (.inr hrest)))

theorem Arguments.name_mem_tokens (d : Arguments) (h : n ∈ Expr.allNames d.trees) :
    Token.name n ∈ d.tokens := by
  match d with
  | .nil => cases h
  | .cons first rest =>
    rw [Arguments.trees, Expr.allNames, List.mem_append] at h
    rw [Arguments.tokens, List.mem_append]
    exact h.imp first.name_mem_tokens rest.name_mem_tokens

theorem MoreArguments.name_mem_tokens (d : MoreArguments) (h : n ∈ Expr.allNames d.trees) :
    Token.name n ∈ d.tokens := by
  match d with
  | .nil => cases h
  | .cons e rest =>
    rw [MoreArguments.trees, Expr.allNames, List.mem_append] at h
    rw [MoreArguments.tokens, List.mem_cons, List.mem_append]
    exact .inr (h.imp e.name_mem_tokens rest.name_mem_tokens)

theorem Primary.name_mem_tokens (d : Primary) (h : n ∈ d.tree.names) :
    Token.name n ∈ d.tokens := by
  match d with
  | .int _ => cases h
  | .str _ => cases h
  | .name m _ =>
    obtain rfl := List.mem_singleton.1 h
    exact List.mem_singleton_self _
  | .group e =>
    rw [Primary.tokens, List.mem_cons, List.mem_append]
    exact .inr (.inl (e.name_mem_tokens h))

end

namespace Statement

/-- A name that a statement reads is one of its tokens. -/
theorem name_mem_tokens_of_reads (d : Statement) (h : n ∈ d.tree.names) :
    Token.name n ∈ d.tokens := by
  cases d with
  | importModule name => cases h
  | importAll name => cases h
  | raise e => exact List.mem_cons_of_mem _ (e.name_mem_tokens h)
  | assign target hkeyword e =>
    exact List.mem_cons_of_mem _ (List.mem_cons_of_mem _ (e.name_mem_tokens h))
  | expr e => exact e.name_mem_tokens h

/-- So is a name that it binds, which is spelled before the equals sign or behind `import`. -/
theorem name_mem_tokens_of_binds (d : Statement) (h : d.tree.target? = some n) :
    Token.name n ∈ d.tokens := by
  cases d with
  | importModule name =>
    obtain rfl := Option.some.inj h
    exact List.mem_cons_of_mem _ (List.mem_singleton_self _)
  | assign target hkeyword e =>
    obtain rfl := Option.some.inj h
    exact List.mem_cons_self
  | _ => cases h

end Statement

/-- The statements of a program are derived from tokens of it. -/
theorem Program.exists_statement (d : Program) {s : Stmt} (h : s ∈ d.trees) :
    ∃ d' : Statement, d'.tree = s ∧ ∀ t ∈ d'.tokens, t ∈ d.tokens := by
  cases d with
  | blank k => cases h
  | statements before rest =>
    suffices hrest : ∃ d' : Statement, d'.tree = s ∧ ∀ t ∈ d'.tokens, t ∈ rest.tokens by
      obtain ⟨d', hs, hsub⟩ := hrest
      exact ⟨d', hs, fun t ht => List.mem_append_right _ (hsub t ht)⟩
    change s ∈ rest.trees at h
    induction rest with
    | last d' after =>
      obtain rfl := List.mem_singleton.1 h
      exact ⟨d', rfl, fun t ht => List.mem_append_left _ ht⟩
    | cons d' gap rest ih =>
      rcases List.mem_cons.1 h with rfl | h
      · exact ⟨d', rfl, fun t ht => List.mem_append_left _ (List.mem_append_left _ ht)⟩
      · obtain ⟨d', hs, hsub⟩ := ih h
        exact ⟨d', hs, fun t ht => List.mem_append_right _ (hsub t ht)⟩

end Grammar

section Mentions

variable {n code : String} {ss : List Stmt} {s : Stmt}

/-- A statement of a program has a derivation without the names that the program does not
    mention. -/
theorem Unmentioned.exists_statement (h : Unmentioned n code) (hread : programOf? code = some ss)
    (hs : s ∈ ss) : ∃ d : Grammar.Statement, d.tree = s ∧ Token.name n ∉ d.tokens := by
  rw [programOf?, Option.bind_eq_bind, Option.bind_eq_some_iff] at hread
  obtain ⟨ts, hts, hread⟩ := hread
  obtain ⟨d, rfl, rfl⟩ := parseProgram_eq_some_iff.1 hread
  obtain ⟨d', hd', hsub⟩ := d.exists_statement hs
  exact ⟨d', hd', fun hn => h _ hts (hsub _ hn)⟩

/-- A program reads no name that it does not mention. -/
theorem Unmentioned.reads (h : Unmentioned n code) (hread : programOf? code = some ss)
    (hs : s ∈ ss) : ∀ m ∈ s.names, m ≠ n := by
  obtain ⟨d, rfl, hd⟩ := h.exists_statement hread hs
  rintro m hm rfl
  exact hd (d.name_mem_tokens_of_reads hm)

/-- Nor does it bind one by an assignment or the import of a module. -/
theorem Unmentioned.binds (h : Unmentioned n code) (hread : programOf? code = some ss)
    (hs : s ∈ ss) : s.target? ≠ some n := by
  obtain ⟨d, rfl, hd⟩ := h.exists_statement hread hs
  exact fun ht => hd (d.name_mem_tokens_of_binds ht)

end Mentions

variable {σ : Type}

/-- The very same native functions. -/
abbrev SameNative (_ : String) (f g : Native σ) : Prop := f = g

theorem Object.Sim.eq {a b : Object σ} (h : Object.Sim SameNative a b) :
    a = b := by
  cases h with
  | function name h => rw [h]
  | _ => rfl

namespace Interpreter

variable {n : String} {i j : Interpreter σ}

/-! ## What a program does to the binding of a name -/

/-- The module has the name among its functions or its imports. -/
def Brings (m : Module σ) (n : String) : Prop := n ∈ m.functionNames ∨ n ∈ m.imports

theorem bind_globals {name : String} (h : name ≠ n) (o : Object σ) :
    (i.bind name o).globals n = i.globals n :=
  if_neg h.symm

/-- To bind functions of other names changes nothing about a name. -/
theorem bindFunctions_globals {functions : List (String × Native σ)}
    (h : n ∉ functions.map (·.1)) : (i.bindFunctions functions).globals n = i.globals n := by
  induction functions generalizing i with
  | nil => rfl
  | cons a rest ih =>
    rw [List.map_cons, List.mem_cons, not_or] at h
    exact (ih h.2).trans (bind_globals (Ne.symm h.1) _)

theorem bindModules_globals {names : List String} (h : n ∉ names) :
    (i.bindModules names).2.globals n = i.globals n := by
  induction names generalizing i with
  | nil => rfl
  | cons name rest ih =>
    rw [List.mem_cons, not_or] at h
    rw [bindModules]
    cases i.moduleOf name with
    | error e => rfl
    | ok m => exact (ih h.2).trans (bind_globals (Ne.symm h.1) _)

/-- Only an import of everything changes what a name is bound to that the statement does not
    spell. -/
theorem run_globals (i : Interpreter σ) {st : Stmt} (h : st.target? ≠ some n) :
    (i.run st).Returns fun x => x.2.globals n = i.globals n ∨
      ∃ name m, st = .importAll name ∧ i.modules name = some m ∧ Brings m n := by
  cases st with
  | expr e | raise e =>
    refine .of_bind fun result => ?_
    cases result with
    | error e => exact .pure (.inl rfl)
    | ok o => exact .pure (.inl rfl)
  | assign target e =>
    refine .of_bind fun result => ?_
    cases result with
    | error e => exact .pure (.inl rfl)
    | ok o => exact .pure (.inl (bind_globals (fun heq => h (congrArg some heq)) o))
  | importModule name =>
    rw [run]
    cases i.moduleOf name with
    | error e => exact .pure (.inl rfl)
    | ok m => exact .pure (.inl (bind_globals (fun heq => h (congrArg some heq)) _))
  | importAll name =>
    rw [run, moduleOf]
    cases hmodule : i.modules name with
    | none => exact .pure (.inl rfl)
    | some m =>
      by_cases hbrings : Brings m n
      · exact .pure (.inr ⟨name, m, rfl, hmodule, hbrings⟩)
      · obtain ⟨hfunctions, himports⟩ := not_or.1 hbrings
        exact .pure (.inl ((bindModules_globals himports).trans (bindFunctions_globals hfunctions)))

/-- From a host the statements come to an import of everything from a module that has the
    name. -/
def ImportsAll (i : Interpreter σ) (ss : List Stmt) (n : String) (s : σ) : Prop :=
  ∃ before name after k s', ss = before ++ .importAll name :: after ∧
    i.runAll before s = .ok ((.ok (), k), s') ∧ ∃ m, i.modules name = some m ∧ Brings m n

/-- Statements that do not spell a name leave its binding alone, unless one that is come to imports
    everything from a module that has the name. -/
theorem runAll_globals {ss : List Stmt} (h : ∀ st ∈ ss, st.target? ≠ some n) {s s' : σ}
    {x : Except Exception Unit × Interpreter σ} (hrun : i.runAll ss s = .ok (x, s')) :
    x.2.globals n = i.globals n ∨ i.ImportsAll ss n s := by
  -- By induction on the statements, up to the first import that brings the name.
  induction ss generalizing i s with
  | nil =>
    cases hrun
    exact .inl rfl
  | cons st rest ih =>
    obtain ⟨⟨result, j⟩, s₁, hst, hrest⟩ := Run.exists_of_bind hrun
    have hfirst := run_globals i (h st List.mem_cons_self) s _ s₁ hst
    rcases hfirst with hglobal | ⟨name, m, rfl, hmodule, hbrings⟩
    · cases result with
      | error e =>
        cases hrest
        exact .inl hglobal
      | ok _ =>
        rcases ih (fun st hst => h st (List.mem_cons_of_mem _ hst)) hrest with
          hlast | ⟨before, name, after, k, s₂, rfl, hbefore, m, hmodule, hbrings⟩
        · exact .inl (hlast.trans hglobal)
        · -- The modules are the same behind the first statement as before it.
          rw [(run_frame i st s _ s₁ hst).modules] at hmodule
          exact .inr ⟨st :: before, name, after, k, s₂, rfl,
            (Run.bind_of_ok hst).trans hbefore, m, hmodule, hbrings⟩
    · exact .inr ⟨[], name, rest, i, s, rfl, rfl, m, hmodule, hbrings⟩

theorem complete_globals (i : Interpreter σ) (result : Except Exception (Object σ)) :
    (i.complete result).2.globals = i.globals := by
  rw [complete.eq_def]
  split
  · rfl
  · split <;> rfl
  · rfl

/-- A program keeps what a name is bound to that it does not mention, unless it imports everything
    from a module that has the name. -/
theorem execute_globals {code : String} (h : Unmentioned n code) {s s' : σ}
    {x : Completion × Interpreter σ} (hrun : i.execute code s = .ok (x, s')) :
    x.2.globals n = i.globals n ∨
      ∃ ss, programOf? code = some ss ∧ i.counted.ImportsAll ss n s := by
  cases hread : programOf? code with
  | none =>
    rw [execute, hread] at hrun
    cases hrun
    exact .inl (congrFun (complete_globals i.counted _) n)
  | some ss =>
    rw [i.execute_eq hread, Run.map_apply] at hrun
    cases hall : i.counted.runAll ss s with
    | error crash =>
      rw [hall] at hrun
      cases hrun
    | ok y =>
      rw [hall] at hrun
      cases hrun
      rw [complete_globals]
      exact (runAll_globals (fun st hst => h.binds hread hst) hall).imp_right fun himports =>
        ⟨ss, rfl, himports⟩

/-! ## Two interpreters that differ in one binding -/

/-- What two interpreters have in common that a run leaves alone they have in common after it. -/
theorem Frame.after {i' j' : Interpreter σ} (h : Frame i j) (hi : Frame i i') (hj : Frame j j') :
    Frame i' j' :=
  ⟨hj.modules.trans (h.modules.trans hi.modules.symm), hj.print.trans (h.print.trans hi.print.symm),
    hj.osAccess.trans (h.osAccess.trans hi.osAccess.symm)⟩

/-- The interpreters differ at most in what the name is bound to. -/
structure SameBut (n : String) (i j : Interpreter σ) : Prop where
  globals : ∀ m, m ≠ n → j.globals m = i.globals m
  pending : j.pending = i.pending
  runs : j.runs = i.runs
  frame : Frame i j

/-- Interpreters that differ in one name simulate each other as long as this name is not read. -/
theorem SameBut.sim (h : SameBut n i j) : Sim Eq SameNative (· ≠ n) i j where
  globals m hm := by
    rw [h.globals m hm]
    cases i.globals m with
    | none => exact .none
    | some o => exact .some (.refl (fun _ _ => rfl) o)
  modules m := by
    rw [h.frame.modules]
    cases i.modules m with
    | none => exact .none
    | some module => exact .some (.refl (fun _ _ => rfl) module)
  natives hfg args := hfg ▸ .refl _
  write chunk := by
    rw [write, write, h.frame.print]
    exact .refl _
  pending := h.pending.symm
  runs := h.runs.symm

/-- Interpreters that simulate each other by the same native functions differ in one name at most.
    -/
theorem SameBut.of_sim (h : Sim Eq SameNative (· ≠ n) i j) (hframe : Frame i j) :
    SameBut n i j where
  globals m hm := by
    have hglobal := h.globals m hm
    generalize i.globals m = x, j.globals m = y at hglobal ⊢
    cases hglobal with
    | none => rfl
    | some ho => rw [ho.eq]
  pending := h.pending.symm
  runs := h.runs.symm
  frame := hframe

/-- Both make the same prints and calls on the way, and have the same host at every one of
    them. -/
theorem SameBut.midway? {code : String} (h : SameBut n i j) (hcode : Unmentioned n code)
    (k : Nat) (s : σ) :
    i.midway? .statements code k s = j.midway? .statements code k s := by
  have hsim := h.sim.stopping.recorded.execute code
    (fun ss hread st hst m hm => hcode.reads hread hst m hm) ([], (k, s)) ([], (k, s))
    ⟨rfl, rfl, rfl⟩
  rw [Interpreter.midway?, Interpreter.midway?, input, input]
  generalize i.stopping.recorded.execute code ([], (k, s)) = x,
    j.stopping.recorded.execute code ([], (k, s)) = y at hsim
  cases hsim with
  | failed crash => rfl
  | returned hend => exact congrArg some (Prod.ext hend.2.1 hend.2.2.2)

/-- A program that does not mention the name does the same deeds on both. -/
theorem SameBut.deeds? {code : String} (h : SameBut n i j) (hcode : Unmentioned n code)
    (s : σ) : i.deeds? .statements code s = j.deeds? .statements code s := by
  have hsim := h.sim.recorded.execute code
    (fun ss hread st hst m hm => hcode.reads hread hst m hm) ([], s) ([], s) ⟨rfl, rfl⟩
  rw [Interpreter.deeds?, Interpreter.deeds?, input, input]
  generalize i.recorded.execute code ([], s) = x, j.recorded.execute code ([], s) = y at hsim
  cases hsim with
  | failed crash => rfl
  | returned hend => exact congrArg some hend.2.1

/-- What a program does does not depend on what a name is bound to that is no token of it. Two
    interpreters that differ in this binding alone, on the same host, print the same chunks and
    call the same native functions with the same arguments, with the same host after every call;
    and they crash alike, or end with the same completion, the same host and the same exception
    left behind, and with the same bindings of all other names. In either run the name keeps its
    binding, unless the program comes to an import of everything from a module that has the name
    among its functions or its imports. -/
theorem unmentioned_indifferent (code : String) (h : Unmentioned n code)
    (hij : SameBut n i j) (s : σ) :
    (∀ k, i.midway? .statements code k s = j.midway? .statements code k s) ∧
    ((∃ crash, i.execute code s = .error crash ∧ j.execute code s = .error crash) ∨
      ∃ completion i' j' s' deeds,
        i.execute code s = .ok ((completion, i'), s') ∧
        j.execute code s = .ok ((completion, j'), s') ∧
        i.deeds? .statements code s = some deeds ∧
        j.deeds? .statements code s = some deeds ∧
        SameBut n i' j' ∧
        (i'.globals n = i.globals n ∨
          ∃ ss, programOf? code = some ss ∧ i.counted.ImportsAll ss n s) ∧
        (j'.globals n = j.globals n ∨
          ∃ ss, programOf? code = some ss ∧ j.counted.ImportsAll ss n s)) := by
  refine ⟨fun k => hij.midway? h k s, ?_⟩
  -- The program reads other names only, so one run simulates the other, and both end alike.
  have hsim := hij.sim.execute code (fun ss hread st hst m hm => h.reads hread hst m hm) s s rfl
  cases hi : i.execute code s with
  | error crash =>
    rw [hi] at hsim
    cases hj : j.execute code s with
    | error crash' =>
      rw [hj] at hsim
      cases hsim
      exact .inl ⟨crash, rfl, rfl⟩
    | ok y =>
      rw [hj] at hsim
      cases hsim
  | ok x =>
    rw [hi] at hsim
    cases hj : j.execute code s with
    | error crash' =>
      rw [hj] at hsim
      cases hsim
    | ok y =>
      rw [hj] at hsim
      obtain ⟨⟨completion, i'⟩, s'⟩ := x
      obtain ⟨⟨completion', j'⟩, s''⟩ := y
      cases hsim with
      | returned hend =>
        obtain ⟨⟨hcompletion, hafter⟩, hhost⟩ := hend
        obtain rfl : completion = completion' := hcompletion
        obtain rfl : s' = s'' := hhost
        have hinput : i.input .statements code s = .ok ((completion, i'), s') := hi
        obtain ⟨deeds, hdeeds⟩ := i.exists_deeds hinput
        have hframe : Frame i' j' := hij.frame.after (i.input_frame .statements code s _ s' hi)
          (j.input_frame .statements code s _ s' hj)
        exact .inr ⟨completion, i', j', s', deeds, rfl, rfl, hdeeds,
          (hij.deeds? h s).symm.trans hdeeds, .of_sim hafter hframe, execute_globals h hi,
          execute_globals h hj⟩

/-- A program that imports everything from a module with a function that it does not mention. -/
theorem unmentioned_indifferent_brought :
    let lamp : Module Unit := ((Module.empty "lamp").function "dim" fun _ => pure .none).function
      "level" fun _ => pure (.int 3)
    let i : Interpreter Unit := ({} : Interpreter Unit).register lamp
    let j := i.bind "dim" (.int 5)
    let code := "from lamp import *\nprint(level())"
    Unmentioned "dim" code ∧ SameBut "dim" i j ∧
      ((∃ crash, i.execute code () = .error crash ∧ j.execute code () = .error crash) ∨
        ∃ completion i' j', i.execute code () = .ok ((completion, i'), ()) ∧
          j.execute code () = .ok ((completion, j'), ()) ∧ SameBut "dim" i' j') := by
  intro lamp i j code
  have hcode : Unmentioned "dim" code := by
    have htokens : tokenize code.toList = some
        [.name "from", .name "lamp", .name "import", .symbol .star, .newline, .name "print",
          .symbol .parenOpen, .name "level", .symbol .parenOpen, .symbol .parenClose,
          .symbol .parenClose] := by decide +kernel
    intro ts hts
    rw [htokens] at hts
    obtain rfl := Option.some.inj hts
    decide
  have hij : SameBut "dim" i j :=
    ⟨fun m hm => bind_globals hm.symm _, rfl, rfl, bind_frame i "dim" _⟩
  refine ⟨hcode, hij, ?_⟩
  rcases (unmentioned_indifferent code hcode hij ()).2 with
    hcrash | ⟨completion, i', j', _, _, hi, hj, -, -, hafter, -⟩
  · exact .inl hcrash
  · exact .inr ⟨completion, i', j', hi, hj, hafter⟩

end Interpreter

end LedBoard.Script
