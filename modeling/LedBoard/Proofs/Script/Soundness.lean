import LedBoard.Proofs.Script.Completeness

/-!
# What is read is derived by the grammar

Whatever a rule reads, the tokens it took are those of a derivation whose tree it returns, and
it took as many as it could: the first token left over does not go on with the derivation.

The proof goes down with the tokens as the functions do. The loops of sums and products only
stop at a token that goes on with neither, as the operand before them has already been read as
far as possible.

* `exists_expression`: an expression with the tokens left over;
* `exists_statement`, `exists_program`: statements and programs.
-/

namespace LedBoard.Script.Grammar

theorem exists_token_of_sumOperator? {t : Token} {op : Operator} (h : sumOperator? t = some op) :
    ∃ sign : SumSign, t = sign.token ∧ op = sign.operator := by
  unfold sumOperator? at h
  split at h
  · exact ⟨.plus, rfl, (Option.some.inj h).symm⟩
  · exact ⟨.minus, rfl, (Option.some.inj h).symm⟩
  · exact absurd h (by simp)

theorem exists_token_of_productOperator? {t : Token} {op : Operator}
    (h : productOperator? t = some op) :
    ∃ sign : ProductSign, t = sign.token ∧ op = sign.operator := by
  unfold productOperator? at h
  split at h
  · exact ⟨.star, rfl, (Option.some.inj h).symm⟩
  · exact ⟨.slash, rfl, (Option.some.inj h).symm⟩
  · exact absurd h (by simp)

/-- A token that stops a term and is no sign stops an expression. -/
theorem extendsExpression_eq_false {t : Token} (ht : extendsTerm t = false)
    (hop : sumOperator? t = none) : extendsExpression t = false := by
  unfold extendsExpression
  split
  · contradiction
  · contradiction
  · exact ht

/-- A token that stops a postfix expression and is no sign stops a term. -/
theorem extendsTerm_eq_false {t : Token} (ht : extendsPostfix t = false)
    (hop : productOperator? t = none) : extendsTerm t = false := by
  unfold extendsTerm
  split
  · contradiction
  · contradiction
  · exact ht

/-! ## Expressions -/

mutual

/-- What is read as an expression is derived as the tree that is read, and what is left over does
    not go on with it. -/
theorem exists_expression {ts : List Token} {e : Expr} {r : List Token}
    (h : plain (parseExpression ts) = some (e, r)) :
    ∃ d : Expression, ts = d.tokens ++ r ∧ d.tree = e ∧ Stops extendsExpression r := by
  rw [plain_parseExpression] at h
  obtain ⟨⟨left, r'⟩, hterm, hterms⟩ := Option.bind_eq_some_iff.1 h
  have := length_lt_of_plain hterm
  obtain ⟨first, hts, hleft, hstop⟩ := exists_term hterm
  obtain ⟨rest, hr', htree, hr⟩ := exists_terms hstop hterms
  refine ⟨.mk first rest, ?_, ?_, hr⟩
  · rw [hts, hr', Expression.tokens, List.append_assoc]
  · rw [Expression.tree, hleft, htree]
termination_by (ts.length, 5)

/-- What is read behind a term is derived as terms that are joined to it, up to a token that goes on
    with none. -/
theorem exists_terms {left : Expr} {ts : List Token} {e : Expr} {r : List Token}
    (hstop : Stops extendsTerm ts) (h : plain (parseSums left ts) = some (e, r)) :
    ∃ d : Terms, ts = d.tokens ++ r ∧ d.tree left = e ∧ Stops extendsExpression r := by
  match ts, hstop, h with
  | [], _, h =>
    rw [plain_parseSums_nil] at h
    cases h
    exact ⟨.nil, rfl, rfl, .nil⟩
  | t :: rest, hstop, h =>
    rw [plain_parseSums_cons] at h
    split at h
    · -- The loop ends at a token that is no sign and does not go on with the last term.
      next hop =>
      cases h
      exact ⟨.nil, rfl, rfl, .cons (extendsExpression_eq_false hstop.head hop) _⟩
    · next op hop =>
      obtain ⟨⟨right, r'⟩, hterm, hterms⟩ := Option.bind_eq_some_iff.1 h
      have := length_lt_of_plain hterm
      obtain ⟨sign, ht, hsign⟩ := exists_token_of_sumOperator? hop
      obtain ⟨d, hts, hright, hstop'⟩ := exists_term hterm
      obtain ⟨more, hr', htree, hr⟩ := exists_terms hstop' hterms
      refine ⟨.cons sign d more, ?_, ?_, hr⟩
      · rw [Terms.tokens, ht, hts, hr', List.cons_append, List.append_assoc]
      · rw [Terms.tree, hright, ← hsign, htree]
termination_by (ts.length, 0)

theorem exists_term {ts : List Token} {e : Expr} {r : List Token}
    (h : plain (parseTerm ts) = some (e, r)) :
    ∃ d : Term, ts = d.tokens ++ r ∧ d.tree = e ∧ Stops extendsTerm r := by
  rw [plain_parseTerm] at h
  obtain ⟨⟨left, r'⟩, hunary, hfactors⟩ := Option.bind_eq_some_iff.1 h
  have := length_lt_of_plain hunary
  obtain ⟨first, hts, hleft, hstop⟩ := exists_unary hunary
  obtain ⟨rest, hr', htree, hr⟩ := exists_factors hstop hfactors
  refine ⟨.mk first rest, ?_, ?_, hr⟩
  · rw [hts, hr', Term.tokens, List.append_assoc]
  · rw [Term.tree, hleft, htree]
termination_by (ts.length, 4)

/-- What is read behind a factor is derived as factors that are joined to it. -/
theorem exists_factors {left : Expr} {ts : List Token} {e : Expr} {r : List Token}
    (hstop : Stops extendsPostfix ts) (h : plain (parseProducts left ts) = some (e, r)) :
    ∃ d : Factors, ts = d.tokens ++ r ∧ d.tree left = e ∧ Stops extendsTerm r := by
  match ts, hstop, h with
  | [], _, h =>
    rw [plain_parseProducts_nil] at h
    cases h
    exact ⟨.nil, rfl, rfl, .nil⟩
  | t :: rest, hstop, h =>
    rw [plain_parseProducts_cons] at h
    split at h
    · next hop =>
      cases h
      exact ⟨.nil, rfl, rfl, .cons (extendsTerm_eq_false hstop.head hop) _⟩
    · next op hop =>
      obtain ⟨⟨right, r'⟩, hunary, hfactors⟩ := Option.bind_eq_some_iff.1 h
      have := length_lt_of_plain hunary
      obtain ⟨sign, ht, hsign⟩ := exists_token_of_productOperator? hop
      obtain ⟨d, hts, hright, hstop'⟩ := exists_unary hunary
      obtain ⟨more, hr', htree, hr⟩ := exists_factors hstop' hfactors
      refine ⟨.cons sign d more, ?_, ?_, hr⟩
      · rw [Factors.tokens, ht, hts, hr', List.cons_append, List.append_assoc]
      · rw [Factors.tree, hright, ← hsign, htree]
termination_by (ts.length, 0)

/-- What is read as a unary expression is derived as one. -/
theorem exists_unary {ts : List Token} {e : Expr} {r : List Token}
    (h : plain (parseUnary ts) = some (e, r)) :
    ∃ d : Unary, ts = d.tokens ++ r ∧ d.tree = e ∧ Stops extendsPostfix r := by
  by_cases hminus : ∃ rest, ts = .symbol .minus :: rest
  · obtain ⟨rest, hts⟩ := hminus
    rw [hts, plain_parseUnary_minus] at h
    obtain ⟨⟨e', r'⟩, hunary, heq⟩ := Option.map_eq_some_iff.1 h
    cases heq
    obtain ⟨d, hrest, htree, hr⟩ := exists_unary hunary
    exact ⟨.neg d, by rw [hts, hrest, Unary.tokens, List.cons_append], by rw [Unary.tree, htree],
      hr⟩
  · rw [plain_parseUnary fun rest hts => hminus ⟨rest, hts⟩] at h
    obtain ⟨d, hts, htree, hr⟩ := exists_postfix h
    exact ⟨.plain d, hts, htree, hr⟩
termination_by (ts.length, 3)
decreasing_by
  · exact Prod.Lex.left _ _ (by simp [hts])
  · exact Prod.Lex.right _ (by omega)

theorem exists_postfix {ts : List Token} {e : Expr} {r : List Token}
    (h : plain (parsePostfix ts) = some (e, r)) :
    ∃ d : Postfix, ts = d.tokens ++ r ∧ d.tree = e ∧ Stops extendsPostfix r := by
  rw [plain_parsePostfix] at h
  obtain ⟨⟨e', r'⟩, hprimary, hsuffixes⟩ := Option.bind_eq_some_iff.1 h
  have := length_lt_of_plain hprimary
  obtain ⟨head, hts, hhead⟩ := exists_primary hprimary
  obtain ⟨rest, hr', htree, hr⟩ := exists_suffixes hsuffixes
  refine ⟨.mk head rest, ?_, ?_, hr⟩
  · rw [hts, hr', Postfix.tokens, List.append_assoc]
  · rw [Postfix.tree, hhead, htree]
termination_by (ts.length, 2)

/-- What is read behind an expression is derived as suffixes of it. -/
theorem exists_suffixes {e : Expr} {ts : List Token} {e' : Expr} {r : List Token}
    (h : plain (parseSuffixes e ts) = some (e', r)) :
    ∃ d : Suffixes, ts = d.tokens ++ r ∧ d.tree e = e' ∧ Stops extendsPostfix r := by
  by_cases hdot : ∃ rest, ts = .symbol .dot :: rest
  · obtain ⟨rest, hts⟩ := hdot
    by_cases hname : ∃ n rest', rest = .name n :: rest'
    · obtain ⟨n, rest', hrest⟩ := hname
      rw [hts, hrest, plain_parseSuffixes_attr] at h
      obtain ⟨d, hd, htree, hr⟩ := exists_suffixes h
      exact ⟨.attr n d, by rw [hts, hrest, hd]; rfl, htree, hr⟩
    · rw [hts, plain_parseSuffixes_dot e fun n rest' hrest => hname ⟨n, rest', hrest⟩] at h
      contradiction
  by_cases hopen : ∃ rest, ts = .symbol .parenOpen :: rest
  · obtain ⟨rest, hts⟩ := hopen
    rw [hts, plain_parseSuffixes_call] at h
    obtain ⟨⟨args, r'⟩, hargs, hsuffixes⟩ := Option.bind_eq_some_iff.1 h
    have := length_lt_of_plain hargs
    obtain ⟨as, hrest, has⟩ := exists_arguments hargs
    obtain ⟨d, hd, htree, hr⟩ := exists_suffixes hsuffixes
    refine ⟨.call as d, ?_, ?_, hr⟩
    · rw [hts, hrest, hd, Suffixes.tokens, List.cons_append, List.append_assoc, List.cons_append]
    · rw [Suffixes.tree, has, htree]
  · rw [plain_parseSuffixes e (fun rest hts => hdot ⟨rest, hts⟩)
      (fun rest hts => hopen ⟨rest, hts⟩)] at h
    cases h
    -- The loop ends at neither a dot nor a parenthesis, and nothing else goes on.
    refine ⟨.nil, rfl, rfl, ?_⟩
    rintro t rest rfl
    unfold extendsPostfix
    split
    · exact absurd ⟨rest, rfl⟩ hdot
    · exact absurd ⟨rest, rfl⟩ hopen
    · rfl
termination_by (ts.length, 0)
decreasing_by
  · exact Prod.Lex.left _ _ (by
      simp only [hts, hrest, List.length_cons]
      omega)
  · exact Prod.Lex.left _ _ (by simp [hts])
  · exact Prod.Lex.left _ _ (by simp only [hts, List.length_cons]; omega)

/-- What is read as arguments is derived as such, up to the parenthesis that closes them. -/
theorem exists_arguments {ts : List Token} {args : List Expr} {r : List Token}
    (h : plain (parseArguments ts) = some (args, r)) :
    ∃ d : Arguments, ts = d.tokens ++ .symbol .parenClose :: r ∧ d.trees = args := by
  by_cases hclose : ∃ rest, ts = .symbol .parenClose :: rest
  · obtain ⟨rest, hts⟩ := hclose
    rw [hts, plain_parseArguments_close] at h
    cases h
    exact ⟨.nil, hts, rfl⟩
  · rw [plain_parseArguments fun rest hts => hclose ⟨rest, hts⟩] at h
    obtain ⟨first, rest, hts, hargs⟩ := exists_someArguments h
    exact ⟨.cons first rest, by rw [hts, Arguments.tokens, List.append_assoc], hargs⟩
termination_by (ts.length, 7)

/-- What is read as arguments, of which there is one at least, is derived as a first one and others
    behind commas. -/
theorem exists_someArguments {ts : List Token} {args : List Expr} {r : List Token}
    (h : plain (parseSomeArguments ts) = some (args, r)) :
    ∃ (first : Expression) (rest : MoreArguments),
      ts = first.tokens ++ (rest.tokens ++ .symbol .parenClose :: r) ∧
        first.tree :: rest.trees = args := by
  rw [plain_parseSomeArguments] at h
  split at h
  · next e r' hexpr =>
    cases h
    obtain ⟨d, hts, htree, -⟩ := exists_expression hexpr
    exact ⟨d, .nil, hts, by rw [htree]; rfl⟩
  · next e r' hexpr =>
    have := length_lt_of_plain hexpr
    obtain ⟨⟨args', r''⟩, hmore, heq⟩ := Option.map_eq_some_iff.1 h
    cases heq
    obtain ⟨d, hts, htree, -⟩ := exists_expression hexpr
    obtain ⟨first, rest, hr', hargs⟩ := exists_someArguments hmore
    refine ⟨d, .cons first rest, ?_, ?_⟩
    · rw [hts, hr', MoreArguments.tokens, List.cons_append, List.append_assoc]
    · rw [htree, MoreArguments.trees, hargs]
  · contradiction
termination_by (ts.length, 6)
decreasing_by
  · exact Prod.Lex.right _ (by omega)
  · exact Prod.Lex.right _ (by omega)
  · exact Prod.Lex.left _ _ (by simp only [List.length_cons] at this; omega)

/-- What is read as a primary expression is derived as one, and needs nothing of what is left over.
    -/
theorem exists_primary {ts : List Token} {e : Expr} {r : List Token}
    (h : plain (parsePrimary ts) = some (e, r)) :
    ∃ d : Primary, ts = d.tokens ++ r ∧ d.tree = e := by
  by_cases hopen : ∃ rest, ts = .symbol .parenOpen :: rest
  · obtain ⟨rest, hts⟩ := hopen
    rw [hts, plain_parsePrimary_group] at h
    split at h
    · next e' r' hexpr =>
      cases h
      obtain ⟨d, hrest, htree, -⟩ := exists_expression hexpr
      refine ⟨.group d, ?_, htree⟩
      rw [hts, hrest, Primary.tokens, List.cons_append, List.append_assoc]
      rfl
    · contradiction
  · -- Without a parenthesis in front a primary expression is one token.
    rw [parsePrimary.eq_def] at h
    split at h
    · cases h
      exact ⟨.int _, rfl, rfl⟩
    · cases h
      exact ⟨.str _, rfl, rfl⟩
    · next n rest =>
      split at h
      · contradiction
      · next hn =>
        cases h
        exact ⟨.name n (by simpa using hn), rfl, rfl⟩
    · next rest => exact absurd ⟨rest, rfl⟩ hopen
    · contradiction
termination_by (ts.length, 1)
decreasing_by
  exact Prod.Lex.left _ _ (by simp [hts])

end

/-! ## Statements and programs -/

/-- What a statement reads that makes its tree from the expression at its end. -/
theorem exists_of_map_expression {f : Expr → Stmt} {ts : List Token} {s : Stmt} {r : List Token}
    (h : ((plain (parseExpression ts)).map fun (e, r) => (f e, r)) = some (s, r)) :
    ∃ d : Expression, ts = d.tokens ++ r ∧ f d.tree = s := by
  obtain ⟨⟨e, r'⟩, hexpr, heq⟩ := Option.map_eq_some_iff.1 h
  cases heq
  obtain ⟨d, hts, rfl, -⟩ := exists_expression hexpr
  exact ⟨d, hts, rfl⟩

theorem exists_import {ts : List Token} {s : Stmt} {r : List Token}
    (h : plain (parseImport ts) = some (s, r)) :
    ∃ d : Statement, .name "import" :: ts = d.tokens ++ r ∧ d.tree = s := by
  match ts, h with
  | .name n :: rest, h =>
    cases h
    exact ⟨.importModule n, rfl, rfl⟩

theorem exists_importAll {ts : List Token} {s : Stmt} {r : List Token}
    (h : plain (parseImportAll ts) = some (s, r)) :
    ∃ d : Statement, .name "from" :: ts = d.tokens ++ r ∧ d.tree = s := by
  unfold parseImportAll at h
  split at h
  · split at h
    · next hkw =>
      subst hkw
      cases h
      exact ⟨.importAll _, rfl, rfl⟩
    · contradiction
  · contradiction

/-- What starts with a name and is no assignment is derived by what the name is. -/
theorem exists_statement_name {n : String} {rest : List Token}
    (hassign : ∀ r, rest ≠ .symbol .equals :: r) {s : Stmt} {r : List Token}
    (h : plain (parseStatement (.name n :: rest)) = some (s, r)) :
    ∃ d : Statement, .name n :: rest = d.tokens ++ r ∧ d.tree = s := by
  rw [plain_parseStatement_name n hassign] at h
  split at h
  · next hn =>
    subst hn
    exact exists_import h
  split at h
  · next hn =>
    subst hn
    exact exists_importAll h
  split at h
  · next hn =>
    subst hn
    obtain ⟨d, hrest, htree⟩ := exists_of_map_expression h
    exact ⟨.raise d, by rw [hrest]; rfl, htree⟩
  · obtain ⟨d, hts, htree⟩ := exists_of_map_expression h
    exact ⟨.expr d, hts, htree⟩

/-- What is read as a statement is derived as one. -/
theorem exists_statement {ts : List Token} {s : Stmt} {r : List Token}
    (h : plain (parseStatement ts) = some (s, r)) :
    ∃ d : Statement, ts = d.tokens ++ r ∧ d.tree = s := by
  by_cases hname : ∃ n rest, ts = .name n :: rest
  · obtain ⟨n, rest, rfl⟩ := hname
    by_cases hassign : ∃ rest', rest = .symbol .equals :: rest'
    · obtain ⟨rest, rfl⟩ := hassign
      rw [plain_parseStatement_assign] at h
      split at h
      · contradiction
      · next hn =>
        obtain ⟨d, hrest, htree⟩ := exists_of_map_expression h
        exact ⟨.assign n (by simpa using hn) d, by rw [hrest]; rfl, htree⟩
    · exact exists_statement_name (fun r hr => hassign ⟨r, hr⟩) h
  · rw [plain_parseStatement fun n rest hts => hname ⟨n, rest, hts⟩] at h
    obtain ⟨d, hts, htree⟩ := exists_of_map_expression h
    exact ⟨.expr d, hts, htree⟩

/-- In front of what is left after ends of lines are skipped, there are only these. -/
theorem exists_newlines (ts : List Token) : ∃ n, ts = newlines n ++ skipNewlines ts := by
  induction ts with
  | nil => exact ⟨0, rfl⟩
  | cons t ts ih =>
    by_cases ht : t = .newline
    · obtain ⟨n, hn⟩ := ih
      subst ht
      exact ⟨n + 1, congrArg (Token.newline :: ·) hn⟩
    · refine ⟨0, ?_⟩
      rw [skipNewlines, List.dropWhile_cons_of_neg (by simpa using ht)]
      rfl

/-- A statement on a line of its own goes in front of a program. -/
theorem exists_program_cons (n : Nat) (d : Statement) (more : Program) :
    ∃ p : Program, newlines n ++ (d.tokens ++ .newline :: more.tokens) = p.tokens ∧
      p.trees = d.tree :: more.trees := by
  -- The end of the line behind the statement is the first one between it and the next
  -- statement, if there is one, and else the first one behind the last statement.
  cases more with
  | blank m => exact ⟨.statements n (.last d (m + 1)), rfl, rfl⟩
  | statements m body =>
    refine ⟨.statements n (.cons d m body), ?_, rfl⟩
    rw [Program.tokens, Program.tokens, Statements.tokens, List.append_assoc]
    rfl

/-- What is read as a program is derived as one. -/
theorem exists_program {ts : List Token} {ss : List Stmt} (h : parseProgram ts = some ss) :
    ∃ d : Program, ts = d.tokens ∧ d.trees = ss := by
  obtain ⟨n, hts⟩ := exists_newlines ts
  -- By recursion on the tokens: a statement is read behind the ends of lines, and the rest is
  -- shorter.
  match hrest : skipNewlines ts with
  | [] =>
    rw [parseProgram_of_blank hrest] at h
    cases h
    exact ⟨.blank n, by rw [hts, hrest, List.append_nil]; rfl, rfl⟩
  | t :: rest =>
    have hlen : rest.length < ts.length := by
      have := length_skipNewlines ts
      rwa [hrest] at this
    rw [hrest] at hts
    rw [parseProgram_of_statement hrest] at h
    split at h
    · next s hs =>
      cases h
      obtain ⟨d, hd, rfl⟩ := exists_statement hs
      exact ⟨.statements n (.last d 0), by rw [hts, hd]; rfl, rfl⟩
    · next s r hs =>
      have := length_lt_of_plain hs
      obtain ⟨ss', hr, rfl⟩ := Option.map_eq_some_iff.1 h
      obtain ⟨d, hd, rfl⟩ := exists_statement hs
      obtain ⟨more, hmore, rfl⟩ := exists_program hr
      obtain ⟨p, hp, htrees⟩ := exists_program_cons n d more
      exact ⟨p, by rw [hts, hd, hmore, hp], htrees⟩
    · contradiction
termination_by ts.length
decreasing_by
  simp only [List.length_cons] at this
  omega

theorem exists_wholeExpression {ts : List Token} {e : Expr}
    (h : parseWholeExpression ts = some e) : ∃ d : Expression, ts = d.tokens ∧ d.tree = e := by
  rw [parseWholeExpression_eq] at h
  split at h
  · next e' hexpr =>
    cases h
    obtain ⟨d, hts, htree, -⟩ := exists_expression hexpr
    exact ⟨d, by rw [hts, List.append_nil], htree⟩
  · contradiction

end LedBoard.Script.Grammar
