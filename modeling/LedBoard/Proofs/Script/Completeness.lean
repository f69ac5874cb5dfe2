import LedBoard.Proofs.Script.Grammar
import LedBoard.Proofs.Script.Reading

/-!
# What the grammar derives is read

The tokens of a derivation are read as its tree, and the tokens behind them are left over. That
needs a condition on these, since every rule reads as far as it can: the first of them must not
go on with what the derivation is of (`Stops`). A token that goes on with an expression may stop
a term, and one that goes on with a term a postfix expression.

* `read_expression`: an expression with tokens behind it;
* `read_statement`, `read_program`: statements and programs.
-/

namespace LedBoard.Script.Grammar

/-- The token goes on with a postfix expression. -/
def extendsPostfix : Token → Bool
  | .symbol .dot | .symbol .parenOpen => true
  | _ => false

/-- The token goes on with a term. -/
def extendsTerm : Token → Bool
  | .symbol .star | .symbol .slash => true
  | t => extendsPostfix t

/-- The token goes on with an expression. -/
def extendsExpression : Token → Bool
  | .symbol .plus | .symbol .minus => true
  | t => extendsTerm t

/-- The first of the tokens, if there is one, does not go on. -/
def Stops (goesOn : Token → Bool) (ts : List Token) : Prop :=
  ∀ t rest, ts = t :: rest → goesOn t = false

theorem Stops.nil {goesOn : Token → Bool} : Stops goesOn [] := by
  intro t rest h
  exact absurd h (by simp)

theorem Stops.cons {goesOn : Token → Bool} {t : Token} (h : goesOn t = false) (ts : List Token) :
    Stops goesOn (t :: ts) := by
  rintro _ _ ⟨⟩
  exact h

theorem Stops.head {goesOn : Token → Bool} {t : Token} {ts : List Token}
    (h : Stops goesOn (t :: ts)) : goesOn t = false :=
  h t ts rfl

/-- What stops one thing stops another with which fewer tokens go on. -/
theorem Stops.mono {goesOn goesOn' : Token → Bool} {ts : List Token} (h : Stops goesOn ts)
    (hle : ∀ t, goesOn t = false → goesOn' t = false) : Stops goesOn' ts :=
  fun t rest hts => hle t (h t rest hts)

/-- What stops an expression stops a term. -/
theorem Stops.term {ts : List Token} (h : Stops extendsExpression ts) : Stops extendsTerm ts := by
  refine h.mono fun t ht => ?_
  unfold extendsExpression at ht
  split at ht
  · contradiction
  · contradiction
  · exact ht

/-- What stops a term stops a postfix expression. -/
theorem Stops.suffixes {ts : List Token} (h : Stops extendsTerm ts) :
    Stops extendsPostfix ts := by
  refine h.mono fun t ht => ?_
  unfold extendsTerm at ht
  split at ht
  · contradiction
  · contradiction
  · exact ht

/-- A sign stops a term. -/
theorem Terms.stops (rest : Terms) {ts : List Token} (h : Stops extendsExpression ts) :
    Stops extendsTerm (rest.tokens ++ ts) := by
  cases rest with
  | nil => exact h.term
  | cons sign t rest => cases sign <;> exact .cons rfl _

/-- A sign stops a unary expression. -/
theorem Factors.stops (rest : Factors) {ts : List Token} (h : Stops extendsTerm ts) :
    Stops extendsPostfix (rest.tokens ++ ts) := by
  cases rest with
  | nil => exact h.suffixes
  | cons sign u rest => cases sign <;> exact .cons rfl _

/-! ## First tokens -/

/-- A token that a primary expression can start with. -/
def startsPrimary : Token → Bool
  | .int _ | .str _ | .symbol .parenOpen => true
  | .name n => !isKeyword n
  | _ => false

/-- A primary expression begins with an atom or a parenthesis. -/
theorem Primary.exists_tokens (p : Primary) :
    ∃ t rest, p.tokens = t :: rest ∧ startsPrimary t = true := by
  cases p with
  | int n => exact ⟨_, _, rfl, rfl⟩
  | str s => exact ⟨_, _, rfl, rfl⟩
  | name n h =>
    have hstarts : startsPrimary (.name n) = !isKeyword n := rfl
    exact ⟨_, _, rfl, by rw [hstarts, h, Bool.not_false]⟩
  | group e => exact ⟨_, _, rfl, rfl⟩

/-- A postfix expression begins as the primary one in it. -/
theorem Postfix.exists_tokens (p : Postfix) :
    ∃ t rest, p.tokens = t :: rest ∧ startsPrimary t = true := by
  obtain ⟨head, suffixes⟩ := p
  obtain ⟨t, rest, h, ht⟩ := head.exists_tokens
  exact ⟨t, rest ++ suffixes.tokens, by rw [Postfix.tokens, h]; rfl, ht⟩

/-- A postfix expression begins with no other token. -/
theorem Postfix.tokens_ne (p : Postfix) {t : Token} (ht : startsPrimary t = false)
    (ts r : List Token) : p.tokens ++ ts ≠ t :: r := by
  obtain ⟨t', rest, h, ht'⟩ := p.exists_tokens
  intro h'
  rw [h, List.cons_append] at h'
  obtain ⟨rfl, -⟩ := List.cons.inj h'
  exact absurd (ht.symm.trans ht') Bool.false_ne_true

/-- A token that an expression can start with. -/
def startsExpression : Token → Bool
  | .symbol .minus => true
  | t => startsPrimary t

/-- A unary expression begins with a minus sign or as a postfix one. -/
theorem Unary.exists_tokens (u : Unary) :
    ∃ t rest, u.tokens = t :: rest ∧ startsExpression t = true := by
  cases u with
  | neg u => exact ⟨_, _, rfl, rfl⟩
  | plain p =>
    obtain ⟨t, rest, h, ht⟩ := p.exists_tokens
    refine ⟨t, rest, h, ?_⟩
    unfold startsExpression
    split
    · rfl
    · exact ht

/-- An expression begins as its first unary expression. -/
theorem Expression.exists_tokens (e : Expression) :
    ∃ t rest, e.tokens = t :: rest ∧ startsExpression t = true := by
  obtain ⟨⟨u, factors⟩, terms⟩ := e
  obtain ⟨t, rest, h, ht⟩ := u.exists_tokens
  exact ⟨t, rest ++ factors.tokens ++ terms.tokens,
    by rw [Expression.tokens, Term.tokens, h]; simp, ht⟩

/-- An expression begins with no other token. -/
theorem Expression.tokens_ne (e : Expression) {t : Token} (ht : startsExpression t = false)
    (ts r : List Token) : e.tokens ++ ts ≠ t :: r := by
  obtain ⟨t', rest, h, ht'⟩ := e.exists_tokens
  intro h'
  rw [h, List.cons_append] at h'
  obtain ⟨rfl, -⟩ := List.cons.inj h'
  exact absurd (ht.symm.trans ht') Bool.false_ne_true

/-! ## Tokens of expressions -/

/-- A token that can stand in an expression. -/
def inExpression : Token → Bool
  | .newline | .symbol .equals => false
  | _ => true

mutual

/-- An expression holds no end of a line and no equals sign, at any depth. -/
theorem Expression.all_tokens (e : Expression) : e.tokens.all inExpression = true := by
  match e with
  | .mk first rest => rw [Expression.tokens, List.all_append, first.all_tokens, rest.all_tokens]; rfl

theorem Terms.all_tokens (ts : Terms) : ts.tokens.all inExpression = true := by
  match ts with
  | .nil => rfl
  | .cons sign t rest =>
    rw [Terms.tokens, List.all_cons, List.all_append, t.all_tokens, rest.all_tokens]
    cases sign <;> rfl

theorem Term.all_tokens (t : Term) : t.tokens.all inExpression = true := by
  match t with
  | .mk first rest => rw [Term.tokens, List.all_append, first.all_tokens, rest.all_tokens]; rfl

theorem Factors.all_tokens (fs : Factors) : fs.tokens.all inExpression = true := by
  match fs with
  | .nil => rfl
  | .cons sign u rest =>
    rw [Factors.tokens, List.all_cons, List.all_append, u.all_tokens, rest.all_tokens]
    cases sign <;> rfl

theorem Unary.all_tokens (u : Unary) : u.tokens.all inExpression = true := by
  match u with
  | .neg u => rw [Unary.tokens, List.all_cons, u.all_tokens]; rfl
  | .plain p => rw [Unary.tokens, p.all_tokens]

theorem Postfix.all_tokens (p : Postfix) : p.tokens.all inExpression = true := by
  match p with
  | .mk head rest => rw [Postfix.tokens, List.all_append, head.all_tokens, rest.all_tokens]; rfl

theorem Suffixes.all_tokens (ss : Suffixes) : ss.tokens.all inExpression = true := by
  match ss with
  | .nil => rfl
  | .attr name rest =>
    rw [Suffixes.tokens, List.all_cons, List.all_cons, rest.all_tokens]
    rfl
  | .call args rest =>
    rw [Suffixes.tokens, List.all_cons, List.all_append, List.all_cons, args.all_tokens,
      rest.all_tokens]
    rfl

theorem Arguments.all_tokens (args : Arguments) : args.tokens.all inExpression = true := by
  match args with
  | .nil => rfl
  | .cons first rest =>
    rw [Arguments.tokens, List.all_append, first.all_tokens, rest.all_tokens]
    rfl

theorem MoreArguments.all_tokens (args : MoreArguments) :
    args.tokens.all inExpression = true := by
  match args with
  | .nil => rfl
  | .cons e rest =>
    rw [MoreArguments.tokens, List.all_cons, List.all_append, e.all_tokens, rest.all_tokens]
    rfl

theorem Primary.all_tokens (p : Primary) : p.tokens.all inExpression = true := by
  match p with
  | .int _ => rfl
  | .str _ => rfl
  | .name _ _ => rfl
  | .group e =>
    rw [Primary.tokens, List.all_cons, List.all_append, e.all_tokens]
    rfl

end

/-- No statement that is an expression looks like an assignment. -/
theorem Expression.not_assignment (e : Expression) {n : String} {ts r : List Token}
    (h : e.tokens ++ r = .name n :: .symbol .equals :: ts) :
    ∃ rest, r = .symbol .equals :: rest := by
  have hall := e.all_tokens
  obtain ⟨t, rest, he, -⟩ := e.exists_tokens
  rw [he] at h hall
  match rest with
  | [] => exact ⟨ts, (List.cons.inj h).2⟩
  | t' :: rest =>
    obtain ⟨-, h⟩ := List.cons.inj h
    obtain ⟨rfl, -⟩ := List.cons.inj h
    simp [inExpression] at hall

/-! ## Signs -/

theorem sumOperator?_token (sign : SumSign) : sumOperator? sign.token = some sign.operator := by
  cases sign <;> rfl

theorem productOperator?_token (sign : ProductSign) :
    productOperator? sign.token = some sign.operator := by
  cases sign <;> rfl

/-- A token that does not go on with an expression is no sign between terms. -/
theorem sumOperator?_eq_none {t : Token} (h : extendsExpression t = false) :
    sumOperator? t = none := by
  unfold sumOperator?
  split <;> first | rfl | contradiction

/-- A token that does not go on with a term is no sign between factors. -/
theorem productOperator?_eq_none {t : Token} (h : extendsTerm t = false) :
    productOperator? t = none := by
  unfold productOperator?
  split <;> first | rfl | contradiction

/-! ## Expressions -/

mutual

/-- An expression is read to its tree, and what stops it is left over. -/
theorem read_expression (e : Expression) {r : List Token} (hr : Stops extendsExpression r) :
    plain (parseExpression (e.tokens ++ r)) = some (e.tree, r) := by
  match e with
  | .mk first rest =>
    rw [Expression.tokens, List.append_assoc, plain_parseExpression,
      read_term first (rest.stops hr)]
    exact read_terms rest first.tree hr

/-- Terms behind one that was read are read onto it from the left. -/
theorem read_terms (ts : Terms) (left : Expr) {r : List Token}
    (hr : Stops extendsExpression r) :
    plain (parseSums left (ts.tokens ++ r)) = some (ts.tree left, r) := by
  match ts with
  | .nil =>
    rw [Terms.tokens, List.nil_append]
    match r with
    | [] => exact plain_parseSums_nil left
    | t :: r => rw [plain_parseSums_cons, sumOperator?_eq_none hr.head]; rfl
  | .cons sign t rest =>
    rw [Terms.tokens, List.cons_append, List.append_assoc, plain_parseSums_cons,
      sumOperator?_token]
    dsimp only
    rw [read_term t (rest.stops hr)]
    exact read_terms rest _ hr

/-- A term is read up to what does not go on with it. -/
theorem read_term (t : Term) {r : List Token} (hr : Stops extendsTerm r) :
    plain (parseTerm (t.tokens ++ r)) = some (t.tree, r) := by
  match t with
  | .mk first rest =>
    rw [Term.tokens, List.append_assoc, plain_parseTerm, read_unary first (rest.stops hr)]
    exact read_factors rest first.tree hr

/-- Factors behind one that was read are read onto it from the left. -/
theorem read_factors (fs : Factors) (left : Expr) {r : List Token} (hr : Stops extendsTerm r) :
    plain (parseProducts left (fs.tokens ++ r)) = some (fs.tree left, r) := by
  match fs with
  | .nil =>
    rw [Factors.tokens, List.nil_append]
    match r with
    | [] => exact plain_parseProducts_nil left
    | t :: r => rw [plain_parseProducts_cons, productOperator?_eq_none hr.head]; rfl
  | .cons sign u rest =>
    rw [Factors.tokens, List.cons_append, List.append_assoc, plain_parseProducts_cons,
      productOperator?_token]
    dsimp only
    rw [read_unary u (rest.stops hr)]
    exact read_factors rest _ hr

/-- A unary expression is read to its tree, with any number of minus signs. -/
theorem read_unary (u : Unary) {r : List Token} (hr : Stops extendsPostfix r) :
    plain (parseUnary (u.tokens ++ r)) = some (u.tree, r) := by
  match u with
  | .neg u =>
    rw [Unary.tokens, List.cons_append, plain_parseUnary_minus, read_unary u hr]
    rfl
  | .plain p =>
    -- A minus sign would be read first, but a postfix expression does not begin with one.
    rw [Unary.tokens, plain_parseUnary fun rest => p.tokens_ne rfl r rest, read_postfix p hr]
    rfl

/-- A postfix expression is read with all its suffixes. -/
theorem read_postfix (p : Postfix) {r : List Token} (hr : Stops extendsPostfix r) :
    plain (parsePostfix (p.tokens ++ r)) = some (p.tree, r) := by
  match p with
  | .mk head rest =>
    rw [Postfix.tokens, List.append_assoc, plain_parsePostfix, read_primary head]
    exact read_suffixes rest head.tree hr

/-- Suffixes are read one after the other, each onto the expression before it. -/
theorem read_suffixes (ss : Suffixes) (e : Expr) {r : List Token}
    (hr : Stops extendsPostfix r) :
    plain (parseSuffixes e (ss.tokens ++ r)) = some (ss.tree e, r) := by
  match ss with
  | .nil =>
    rw [Suffixes.tokens, List.nil_append, plain_parseSuffixes]
    · rfl
    · rintro rest rfl
      exact absurd hr.head (by decide)
    · rintro rest rfl
      exact absurd hr.head (by decide)
  | .attr name rest =>
    rw [Suffixes.tokens, List.cons_append, List.cons_append, plain_parseSuffixes_attr]
    exact read_suffixes rest _ hr
  | .call args rest =>
    rw [Suffixes.tokens, List.cons_append, List.append_assoc, List.cons_append,
      plain_parseSuffixes_call, read_arguments args]
    exact read_suffixes rest _ hr

/-- Arguments are read with the parenthesis that closes them, whatever is behind it. -/
theorem read_arguments (args : Arguments) {r : List Token} :
    plain (parseArguments (args.tokens ++ .symbol .parenClose :: r)) = some (args.trees, r) := by
  match args with
  | .nil => exact plain_parseArguments_close r
  | .cons first rest =>
    -- A closing parenthesis would end the arguments, but no argument begins with one.
    rw [Arguments.tokens, List.append_assoc,
      plain_parseArguments fun ts => first.tokens_ne rfl _ ts,
      read_someArguments first rest fun hr => read_expression first hr]
    rfl

/-- The induction is on the arguments behind the first one, of which is known that it is read. -/
theorem read_someArguments (e : Expression) (more : MoreArguments)
    (he : ∀ {r}, Stops extendsExpression r →
      plain (parseExpression (e.tokens ++ r)) = some (e.tree, r)) {r : List Token} :
    plain (parseSomeArguments (e.tokens ++ (more.tokens ++ .symbol .parenClose :: r))) =
      some (e.tree :: more.trees, r) := by
  match more with
  | .nil =>
    rw [plain_parseSomeArguments, MoreArguments.tokens, List.nil_append, he (.cons rfl _)]
    rfl
  | .cons e' rest =>
    rw [plain_parseSomeArguments, MoreArguments.tokens, List.cons_append, he (.cons rfl _)]
    dsimp only
    rw [List.append_assoc, read_someArguments e' rest fun hr => read_expression e' hr]
    rfl

/-- A primary expression ends by itself, so it is read whatever is behind it. -/
theorem read_primary (p : Primary) {r : List Token} :
    plain (parsePrimary (p.tokens ++ r)) = some (p.tree, r) := by
  match p with
  | .int n => rw [Primary.tokens, List.singleton_append, parsePrimary]; rfl
  | .str s => rw [Primary.tokens, List.singleton_append, parsePrimary]; rfl
  | .name n h => rw [Primary.tokens, List.singleton_append, parsePrimary, if_neg (by simp [h])]; rfl
  | .group e =>
    rw [Primary.tokens, List.cons_append, List.append_assoc, List.singleton_append,
      plain_parsePrimary_group, read_expression e (.cons rfl _)]
    rfl

end

/-! ## Statements and programs -/

/-- The token goes on with a statement: a name in front of an equals sign is no expression. -/
def extendsStatement : Token → Bool
  | .symbol .equals => true
  | t => extendsExpression t

/-- What stops a statement stops an expression. -/
theorem Stops.expression {ts : List Token} (h : Stops extendsStatement ts) :
    Stops extendsExpression ts := by
  refine h.mono fun t ht => ?_
  unfold extendsStatement at ht
  split at ht
  · contradiction
  · exact ht

/-- The end of a line stops a statement, and so does the end of the source. -/
theorem stops_newlines (n : Nat) : Stops extendsStatement (newlines n) := by
  cases n with
  | zero => exact .nil
  | succ n => exact .cons rfl _

theorem stops_newlines_append (n : Nat) (ts : List Token) :
    Stops extendsStatement (newlines (n + 1) ++ ts) :=
  .cons rfl _

theorem ne_of_isKeyword {n : String} (h : isKeyword n = false) :
    n ≠ "import" ∧ n ≠ "from" ∧ n ≠ "raise" := by
  simpa [isKeyword, and_assoc] using h

/-- A statement is read to its tree, and what stops it is left over. -/
theorem read_statement (s : Statement) {r : List Token} (hr : Stops extendsStatement r) :
    plain (parseStatement (s.tokens ++ r)) = some (s.tree, r) := by
  cases s with
  | importModule name =>
    exact plain_parseStatement_name "import" (by simp)
  | importAll name =>
    exact plain_parseStatement_name "from" (by simp)
  | raise e =>
    -- The keyword stands in front of no equals sign, since an expression begins with none.
    rw [Statement.tokens, List.cons_append,
      plain_parseStatement_name "raise" fun ts => e.tokens_ne rfl r ts, if_neg (by decide),
      if_neg (by decide), if_pos rfl, read_expression e hr.expression]
    rfl
  | assign target h e =>
    rw [Statement.tokens, List.cons_append, List.cons_append, plain_parseStatement_assign,
      if_neg (by simp [h]), read_expression e hr.expression]
    rfl
  | expr e =>
    obtain ⟨t, rest, h, ht⟩ := e.exists_tokens
    rw [Statement.tokens]
    by_cases hname : ∃ n, t = .name n
    · -- The expression begins with a name, which is neither a keyword nor assigned to.
      obtain ⟨n, rfl⟩ := hname
      have hkeyword : (!isKeyword n) = true := ht
      obtain ⟨h₁, h₂, h₃⟩ := ne_of_isKeyword (Bool.not_eq_true' _ ▸ hkeyword)
      have hread := read_expression e hr.expression
      have hassign : ∀ r', rest ++ r ≠ .symbol .equals :: r' := by
        intro r' h'
        obtain ⟨r', rfl⟩ := e.not_assignment (n := n) (by rw [h, List.cons_append, h'])
        exact absurd hr.head (by decide)
      rw [h, List.cons_append] at hread ⊢
      rw [plain_parseStatement_name n hassign, if_neg h₁, if_neg h₂, if_neg h₃, hread]
      rfl
    · rw [plain_parseStatement, read_expression e hr.expression]
      · rfl
      · rintro n r' h'
        rw [h, List.cons_append] at h'
        exact hname ⟨n, (List.cons.inj h').1⟩

/-- Ends of lines before a statement are of no account. -/
theorem skipNewlines_newlines (n : Nat) (ts : List Token) :
    skipNewlines (newlines n ++ ts) = skipNewlines ts := by
  induction n with
  | zero => rfl
  | succ n ih => exact ih

/-- A statement does not start with the end of a line. -/
theorem Statement.exists_tokens (s : Statement) :
    ∃ t rest, s.tokens = t :: rest ∧ t ≠ .newline := by
  cases s with
  | expr e =>
    obtain ⟨t, rest, h, ht⟩ := e.exists_tokens
    exact ⟨t, rest, h, by rintro rfl; contradiction⟩
  | _ => exact ⟨_, _, rfl, by simp⟩

/-- Statements start with no end of a line. -/
theorem Statements.exists_tokens (s : Statements) :
    ∃ t rest, s.tokens = t :: rest ∧ t ≠ .newline := by
  cases s with
  | last s after =>
    obtain ⟨t, rest, h, ht⟩ := s.exists_tokens
    exact ⟨t, rest ++ newlines after, by rw [Statements.tokens, h]; rfl, ht⟩
  | cons s gap more =>
    obtain ⟨t, rest, h, ht⟩ := s.exists_tokens
    exact ⟨t, rest ++ newlines (gap + 1) ++ more.tokens, by rw [Statements.tokens, h]; rfl, ht⟩

theorem read_newlines (n : Nat) : parseProgram (newlines n) = some [] := by
  refine parseProgram_of_blank ?_
  rw [← List.append_nil (newlines n), skipNewlines_newlines]
  rfl

/-- A program whose first statement stands behind ends of lines and in front of `r`. -/
theorem parseProgram_statement (before : Nat) (s : Statement) {r : List Token}
    (hr : Stops extendsStatement r) :
    parseProgram (newlines before ++ (s.tokens ++ r)) =
      match r with
      | [] => some [s.tree]
      | .newline :: r => (parseProgram r).map (s.tree :: ·)
      | _ => none := by
  obtain ⟨t, rest, h, ht⟩ := s.exists_tokens
  have hskip : skipNewlines (newlines before ++ (s.tokens ++ r)) = t :: (rest ++ r) := by
    rw [skipNewlines_newlines, h, List.cons_append, skipNewlines,
      List.dropWhile_cons_of_neg (by simpa using ht)]
  rw [parseProgram_of_statement hskip, ← List.cons_append, ← h, read_statement s hr]
  cases r with
  | nil => rfl
  | cons t r => cases t <;> rfl

/-- Statements are read one after the other, each behind the ends of the lines before it. -/
theorem read_statements (s : Statements) (before : Nat) :
    parseProgram (newlines before ++ s.tokens) = some s.trees := by
  induction s generalizing before with
  | last s after =>
    rw [Statements.tokens, parseProgram_statement before s (stops_newlines after)]
    cases after with
    | zero => rfl
    | succ n =>
      change (parseProgram (newlines n)).map _ = _
      rw [read_newlines]
      rfl
  | cons s gap more ih =>
    rw [Statements.tokens, List.append_assoc,
      parseProgram_statement before s (stops_newlines_append gap _)]
    change (parseProgram (newlines gap ++ more.tokens)).map _ = _
    rw [ih]
    rfl

/-- A program of the grammar is read to its trees. -/
theorem read_program (p : Program) : parseProgram p.tokens = some p.trees := by
  cases p with
  | blank n => exact read_newlines n
  | statements before rest => exact read_statements rest before

/-- An expression with nothing behind it. -/
theorem read_wholeExpression (e : Expression) : parseWholeExpression e.tokens = some e.tree := by
  have h := read_expression e .nil
  rw [List.append_nil] at h
  rw [parseWholeExpression_eq, h]

end LedBoard.Script.Grammar
