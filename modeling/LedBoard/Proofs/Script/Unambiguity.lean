import LedBoard.Proofs.Script.Completeness

/-!
# The grammar is unambiguous

A sequence of tokens has at most one derivation. Two derivations of an expression with tokens
behind them are compared from the left: the first tokens tell which rule both use, and a part of
a derivation ends in both at the same place, since in both it is followed by a token that does
not go on with it.

* `expression_unique`: expressions with tokens behind them;
* `statement_unique`, `program_unique`: statements and programs.
-/

namespace LedBoard.Script.Grammar

theorem SumSign.token_inj {s s' : SumSign} (h : s.token = s'.token) : s = s' := by
  cases s <;> cases s' <;> simp_all [token]

theorem ProductSign.token_inj {s s' : ProductSign} (h : s.token = s'.token) : s = s' := by
  cases s <;> cases s' <;> simp_all [token]

theorem SumSign.extendsExpression_token (s : SumSign) : extendsExpression s.token = true := by
  cases s <;> rfl

theorem ProductSign.extendsTerm_token (s : ProductSign) : extendsTerm s.token = true := by
  cases s <;> rfl

/-- Tokens that stop do not begin with one that goes on. -/
theorem Stops.ne_cons {goesOn : Token → Bool} {ts : List Token} (h : Stops goesOn ts) {t : Token}
    (ht : goesOn t = true) (rest : List Token) : ts ≠ t :: rest := by
  rintro rfl
  exact absurd (h.head.symm.trans ht) Bool.false_ne_true

/-- A comma and a closing parenthesis stop an argument. -/
theorem MoreArguments.stops (rest : MoreArguments) {ts : List Token} :
    Stops extendsExpression (rest.tokens ++ .symbol .parenClose :: ts) := by
  cases rest with
  | nil => exact .cons rfl _
  | cons e rest => exact .cons rfl _

/-! ## Expressions -/

mutual

/-- Tokens have one derivation as an expression in front of what stops it: the first terms are the
    same, and so what is behind them. -/
theorem expression_unique (d d' : Expression) {r r' : List Token}
    (hr : Stops extendsExpression r) (hr' : Stops extendsExpression r')
    (h : d.tokens ++ r = d'.tokens ++ r') : d = d' ∧ r = r' := by
  match d, d' with
  | .mk first rest, .mk first' rest' =>
    rw [Expression.tokens, Expression.tokens, List.append_assoc, List.append_assoc] at h
    obtain ⟨rfl, h₁⟩ := term_unique first first' (rest.stops hr) (rest'.stops hr') h
    obtain ⟨rfl, h₂⟩ := terms_unique rest rest' hr hr' h₁
    exact ⟨rfl, h₂⟩

/-- Of two derivations of terms, both end or both go on, since a sign does not stop an expression.
    -/
theorem terms_unique (d d' : Terms) {r r' : List Token} (hr : Stops extendsExpression r)
    (hr' : Stops extendsExpression r') (h : d.tokens ++ r = d'.tokens ++ r') :
    d = d' ∧ r = r' := by
  match d, d' with
  | .nil, .nil => exact ⟨rfl, h⟩
  -- A sign behind one of two derivations would go on with the other.
  | .nil, .cons sign' _ _ => exact absurd h (hr.ne_cons sign'.extendsExpression_token _)
  | .cons sign _ _, .nil => exact absurd h.symm (hr'.ne_cons sign.extendsExpression_token _)
  | .cons sign t rest, .cons sign' t' rest' =>
    rw [Terms.tokens, Terms.tokens, List.cons_append, List.cons_append, List.append_assoc,
      List.append_assoc] at h
    obtain ⟨hsign, h₁⟩ := List.cons.inj h
    cases SumSign.token_inj hsign
    obtain ⟨rfl, h₂⟩ := term_unique t t' (rest.stops hr) (rest'.stops hr') h₁
    obtain ⟨rfl, h₃⟩ := terms_unique rest rest' hr hr' h₂
    exact ⟨rfl, h₃⟩

theorem term_unique (d d' : Term) {r r' : List Token} (hr : Stops extendsTerm r)
    (hr' : Stops extendsTerm r') (h : d.tokens ++ r = d'.tokens ++ r') : d = d' ∧ r = r' := by
  match d, d' with
  | .mk first rest, .mk first' rest' =>
    rw [Term.tokens, Term.tokens, List.append_assoc, List.append_assoc] at h
    obtain ⟨rfl, h₁⟩ := unary_unique first first' (rest.stops hr) (rest'.stops hr') h
    obtain ⟨rfl, h₂⟩ := factors_unique rest rest' hr hr' h₁
    exact ⟨rfl, h₂⟩

/-- Of two derivations of factors, both end or both go on. -/
theorem factors_unique (d d' : Factors) {r r' : List Token} (hr : Stops extendsTerm r)
    (hr' : Stops extendsTerm r') (h : d.tokens ++ r = d'.tokens ++ r') : d = d' ∧ r = r' := by
  match d, d' with
  | .nil, .nil => exact ⟨rfl, h⟩
  | .nil, .cons sign' _ _ => exact absurd h (hr.ne_cons sign'.extendsTerm_token _)
  | .cons sign _ _, .nil => exact absurd h.symm (hr'.ne_cons sign.extendsTerm_token _)
  | .cons sign u rest, .cons sign' u' rest' =>
    rw [Factors.tokens, Factors.tokens, List.cons_append, List.cons_append, List.append_assoc,
      List.append_assoc] at h
    obtain ⟨hsign, h₁⟩ := List.cons.inj h
    cases ProductSign.token_inj hsign
    obtain ⟨rfl, h₂⟩ := unary_unique u u' (rest.stops hr) (rest'.stops hr') h₁
    obtain ⟨rfl, h₃⟩ := factors_unique rest rest' hr hr' h₂
    exact ⟨rfl, h₃⟩

/-- Two unary expressions use the same rule, as only that of a negation begins with a minus
    sign. -/
theorem unary_unique (d d' : Unary) {r r' : List Token} (hr : Stops extendsPostfix r)
    (hr' : Stops extendsPostfix r') (h : d.tokens ++ r = d'.tokens ++ r') : d = d' ∧ r = r' := by
  match d, d' with
  | .neg u, .neg u' =>
    obtain ⟨rfl, h₁⟩ := unary_unique u u' hr hr' (List.cons.inj h).2
    exact ⟨rfl, h₁⟩
  | .neg _, .plain p' => exact absurd h.symm (p'.tokens_ne rfl _ _)
  | .plain p, .neg _ => exact absurd h (p.tokens_ne rfl _ _)
  | .plain p, .plain p' =>
    obtain ⟨rfl, h₁⟩ := postfix_unique p p' hr hr' h
    exact ⟨rfl, h₁⟩

theorem postfix_unique (d d' : Postfix) {r r' : List Token} (hr : Stops extendsPostfix r)
    (hr' : Stops extendsPostfix r') (h : d.tokens ++ r = d'.tokens ++ r') : d = d' ∧ r = r' := by
  match d, d' with
  | .mk head rest, .mk head' rest' =>
    rw [Postfix.tokens, Postfix.tokens, List.append_assoc, List.append_assoc] at h
    obtain ⟨rfl, h₁⟩ := primary_unique head head' h
    obtain ⟨rfl, h₂⟩ := suffixes_unique rest rest' hr hr' h₁
    exact ⟨rfl, h₂⟩

/-- A dot and a parenthesis tell which suffix comes next, and any other token ends the suffixes. -/
theorem suffixes_unique (d d' : Suffixes) {r r' : List Token} (hr : Stops extendsPostfix r)
    (hr' : Stops extendsPostfix r') (h : d.tokens ++ r = d'.tokens ++ r') : d = d' ∧ r = r' := by
  match d, d' with
  | .nil, .nil => exact ⟨rfl, h⟩
  -- A dot or a parenthesis behind one of two derivations would go on with the other.
  | .nil, .attr _ _ => exact absurd h (hr.ne_cons rfl _)
  | .nil, .call _ _ => exact absurd h (hr.ne_cons rfl _)
  | .attr _ _, .nil => exact absurd h.symm (hr'.ne_cons rfl _)
  | .call _ _, .nil => exact absurd h.symm (hr'.ne_cons rfl _)
  | .attr _ _, .call _ _ => exact absurd (List.cons.inj h).1 (by simp)
  | .call _ _, .attr _ _ => exact absurd (List.cons.inj h).1 (by simp)
  | .attr n rest, .attr n' rest' =>
    obtain ⟨-, h₁⟩ := List.cons.inj h
    obtain ⟨hn, h₂⟩ := List.cons.inj h₁
    cases hn
    obtain ⟨rfl, h₃⟩ := suffixes_unique rest rest' hr hr' h₂
    exact ⟨rfl, h₃⟩
  | .call args rest, .call args' rest' =>
    rw [Suffixes.tokens, Suffixes.tokens, List.cons_append, List.cons_append, List.append_assoc,
      List.append_assoc, List.cons_append, List.cons_append] at h
    obtain ⟨rfl, h₁⟩ := arguments_unique args args' (List.cons.inj h).2
    obtain ⟨rfl, h₂⟩ := suffixes_unique rest rest' hr hr' h₁
    exact ⟨rfl, h₂⟩

/-- No argument starts with the parenthesis that closes the arguments, so it tells where they end.
    -/
theorem arguments_unique (d d' : Arguments) {r r' : List Token}
    (h : d.tokens ++ .symbol .parenClose :: r = d'.tokens ++ .symbol .parenClose :: r') :
    d = d' ∧ r = r' := by
  match d, d' with
  | .nil, .nil => exact ⟨rfl, (List.cons.inj h).2⟩
  -- Where one call has no arguments, a parenthesis closes it, and no argument begins so.
  | .nil, .cons first' _ =>
    rw [Arguments.tokens, Arguments.tokens, List.append_assoc] at h
    exact absurd h.symm (first'.tokens_ne rfl _ _)
  | .cons first _, .nil =>
    rw [Arguments.tokens, Arguments.tokens, List.append_assoc] at h
    exact absurd h (first.tokens_ne rfl _ _)
  | .cons first rest, .cons first' rest' =>
    rw [Arguments.tokens, Arguments.tokens, List.append_assoc, List.append_assoc] at h
    obtain ⟨rfl, h₁⟩ := expression_unique first first' rest.stops rest'.stops h
    obtain ⟨rfl, h₂⟩ := moreArguments_unique rest rest' h₁
    exact ⟨rfl, h₂⟩

/-- A comma tells that another argument comes, and the closing parenthesis that none does. -/
theorem moreArguments_unique (d d' : MoreArguments) {r r' : List Token}
    (h : d.tokens ++ .symbol .parenClose :: r = d'.tokens ++ .symbol .parenClose :: r') :
    d = d' ∧ r = r' := by
  match d, d' with
  | .nil, .nil => exact ⟨rfl, (List.cons.inj h).2⟩
  | .nil, .cons _ _ => exact absurd (List.cons.inj h).1 (by simp)
  | .cons _ _, .nil => exact absurd (List.cons.inj h).1 (by simp)
  | .cons e rest, .cons e' rest' =>
    rw [MoreArguments.tokens, MoreArguments.tokens, List.cons_append, List.cons_append,
      List.append_assoc, List.append_assoc] at h
    obtain ⟨rfl, h₁⟩ := expression_unique e e' rest.stops rest'.stops (List.cons.inj h).2
    obtain ⟨rfl, h₂⟩ := moreArguments_unique rest rest' h₁
    exact ⟨rfl, h₂⟩

/-- The first token tells the rule of a primary expression. -/
theorem primary_unique (d d' : Primary) {r r' : List Token}
    (h : d.tokens ++ r = d'.tokens ++ r') : d = d' ∧ r = r' := by
  match d, d' with
  | .int n, .int n' => cases h; exact ⟨rfl, rfl⟩
  | .str s, .str s' => cases h; exact ⟨rfl, rfl⟩
  | .name n _, .name n' _ => cases h; exact ⟨rfl, rfl⟩
  | .group e, .group e' =>
    rw [Primary.tokens, Primary.tokens, List.cons_append, List.cons_append, List.append_assoc,
      List.append_assoc] at h
    obtain ⟨rfl, h₁⟩ := expression_unique e e' (.cons rfl _) (.cons rfl _) (List.cons.inj h).2
    exact ⟨rfl, (List.cons.inj h₁).2⟩
  | .int _, .str _ | .int _, .name _ _ | .int _, .group _ | .str _, .int _ | .str _, .name _ _
  | .str _, .group _ | .name _ _, .int _ | .name _ _, .str _ | .name _ _, .group _
  | .group _, .int _ | .group _, .str _ | .group _, .name _ _ =>
    exact absurd (List.cons.inj h).1 (by simp)

end

/-! ## Statements and programs -/

/-- What is read tells the rule of a statement and the names in it, so only the expression in
    it has to be compared. -/
theorem statement_unique (d d' : Statement) {r r' : List Token} (hr : Stops extendsStatement r)
    (hr' : Stops extendsStatement r') (h : d.tokens ++ r = d'.tokens ++ r') :
    d = d' ∧ r = r' := by
  have hread := read_statement d hr
  rw [h, read_statement d' hr'] at hread
  obtain ⟨htree, rfl⟩ := Prod.mk.inj (Option.some.inj hread)
  have htokens : d.tokens = d'.tokens := List.append_cancel_right h
  have hexpr : ∀ e e' : Expression, e.tokens = e'.tokens → e = e' := fun e e' h =>
    (expression_unique e e' .nil .nil (congrArg (· ++ []) h)).1
  refine ⟨?_, rfl⟩
  cases d <;> cases d' <;> simp only [Statement.tree, reduceCtorEq] at htree
  case importModule.importModule => rw [Stmt.importModule.inj htree]
  case importAll.importAll => rw [Stmt.importAll.inj htree]
  case raise.raise e e' => rw [hexpr e e' (List.cons.inj htokens).2]
  case assign.assign n hn e n' hn' e' =>
    obtain ⟨hname, hrest⟩ := List.cons.inj htokens
    cases hname
    rw [hexpr e e' (List.cons.inj hrest).2]
  case expr.expr e e' => rw [hexpr e e' htokens]

theorem newlines_inj {n m : Nat} (h : newlines n = newlines m) : n = m := by
  have := congrArg List.length h
  rwa [newlines, newlines, List.length_replicate, List.length_replicate] at this

/-- No statement starts with the end of a line, so the ends of lines before it can be counted. -/
theorem newlines_append_inj {n m : Nat} {s s' : Statements}
    (h : newlines n ++ s.tokens = newlines m ++ s'.tokens) : n = m ∧ s.tokens = s'.tokens := by
  obtain ⟨t, rest, hs, ht⟩ := s.exists_tokens
  obtain ⟨t', rest', hs', ht'⟩ := s'.exists_tokens
  have hskip := congrArg skipNewlines h
  rw [skipNewlines_newlines, skipNewlines_newlines, hs, hs', skipNewlines, skipNewlines,
    List.dropWhile_cons_of_neg (by simpa using ht),
    List.dropWhile_cons_of_neg (by simpa using ht'), ← hs, ← hs'] at hskip
  rw [hskip] at h
  exact ⟨newlines_inj (List.append_cancel_right h), hskip⟩

/-- Ends of lines alone hold no statement. -/
theorem newlines_ne_append (n m : Nat) (s : Statements) : newlines n ≠ newlines m ++ s.tokens := by
  intro h
  obtain ⟨t, rest, hs, ht⟩ := s.exists_tokens
  have hmem : t ∈ newlines n := by
    rw [h, hs]
    exact List.mem_append_right _ List.mem_cons_self
  exact ht (List.eq_of_mem_replicate hmem)

/-- Tokens have one derivation as statements. -/
theorem statements_unique (d d' : Statements) (h : d.tokens = d'.tokens) : d = d' := by
  -- Behind a statement there is another one, or there are ends of lines only: that tells the rule.
  induction d generalizing d' with
  | last s after =>
    cases d' with
    | last s' after' =>
      obtain ⟨rfl, hn⟩ := statement_unique s s' (stops_newlines _) (stops_newlines _) h
      rw [newlines_inj hn]
    | cons s' gap' rest' =>
      rw [Statements.tokens, Statements.tokens, List.append_assoc] at h
      obtain ⟨-, hn⟩ := statement_unique s s' (stops_newlines _) (stops_newlines_append _ _) h
      exact absurd hn (newlines_ne_append _ _ _)
  | cons s gap rest ih =>
    cases d' with
    | last s' after' =>
      rw [Statements.tokens, Statements.tokens, List.append_assoc] at h
      obtain ⟨-, hn⟩ := statement_unique s s' (stops_newlines_append _ _) (stops_newlines _) h
      exact absurd hn.symm (newlines_ne_append _ _ _)
    | cons s' gap' rest' =>
      rw [Statements.tokens, Statements.tokens, List.append_assoc, List.append_assoc] at h
      obtain ⟨rfl, hn⟩ :=
        statement_unique s s' (stops_newlines_append _ _) (stops_newlines_append _ _) h
      obtain ⟨hgap, hrest⟩ := newlines_append_inj hn
      rw [Nat.succ.inj hgap, ih rest' hrest]

/-- Tokens have one derivation as a program, if they have any. -/
theorem program_unique (d d' : Program) (h : d.tokens = d'.tokens) : d = d' := by
  cases d with
  | blank n =>
    cases d' with
    | blank n' => rw [newlines_inj h]
    | statements before' rest' => exact absurd h (newlines_ne_append _ _ _)
  | statements before rest =>
    cases d' with
    | blank n' => exact absurd h.symm (newlines_ne_append _ _ _)
    | statements before' rest' =>
      obtain ⟨rfl, hrest⟩ := newlines_append_inj h
      rw [statements_unique rest rest' hrest]

end LedBoard.Script.Grammar
