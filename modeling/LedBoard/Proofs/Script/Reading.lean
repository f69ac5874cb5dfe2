import LedBoard.Script.Program

/-!
# Reading, rule by rule

The functions that read a script return what is left over together with a bound on its length,
which makes the recursion end. What a function returns is the same without the bound (`plain`),
and there every rule is a few steps, one after the other: the lemmas of this module say them
once, and no other proof opens the functions.
-/

namespace LedBoard.Script

variable {α β : Type}

/-- What was read and what is left over, without the bound on its length. -/
def plain {p : List β → Prop} (o : Option (α × { r : List β // p r })) : Option (α × List β) :=
  o.map fun (a, r) => (a, r.1)

/-- A result without its proof is one with a proof. -/
theorem plain_eq_some {p : List β → Prop} {o : Option (α × { r : List β // p r })} {a : α}
    {r : List β} : plain o = some (a, r) ↔ ∃ h, o = some (a, ⟨r, h⟩) := by
  simp only [plain, Option.map_eq_some_iff, Prod.mk.injEq]
  constructor
  · rintro ⟨⟨a, r, h⟩, rfl, rfl, rfl⟩
    exact ⟨h, rfl⟩
  · rintro ⟨h, rfl⟩
    exact ⟨_, rfl, rfl, rfl⟩

/-- A rule that takes a token leaves fewer over. -/
theorem length_lt_of_plain {ts : List Token} {p : Parsed α ts} {a : α} {r : List Token}
    (h : plain p = some (a, r)) : r.length < ts.length := by
  obtain ⟨h, -⟩ := plain_eq_some.1 h
  exact h

/-! ## Lexemes -/

theorem tokenize_nil : tokenize [] = some [] := by
  rw [tokenize]

/-- The tokens of a source are that of its first lexeme, if it makes one, and then those of what is
    behind it. -/
theorem tokenize_cons (c : Char) (cs : List Char) :
    tokenize (c :: cs) =
      (plain (scanLexeme c cs)).bind fun (token, r) => (tokenize r).map (token.toList ++ ·) := by
  rw [tokenize]
  cases scanLexeme c cs with
  | none => rfl
  | some x =>
    obtain ⟨token, r, h⟩ := x
    simp only [plain, Option.map_some, Option.bind_some]
    cases tokenize r <;> rfl

theorem tokenize_cons_of_scan {c : Char} {cs r : List Char} {token : Option Token}
    (h : plain (scanLexeme c cs) = some (token, r)) :
    tokenize (c :: cs) = (tokenize r).map (token.toList ++ ·) := by
  rw [tokenize_cons, h]
  rfl

/-! ## Expressions -/

/-- An expression is a term, and then what its sums add to it. -/
theorem plain_parseExpression (ts : List Token) :
    plain (parseExpression ts) =
      (plain (parseTerm ts)).bind fun (left, r) => plain (parseSums left r) := by
  rw [parseExpression]
  cases parseTerm ts with
  | none => rfl
  | some x =>
    obtain ⟨left, r, h⟩ := x
    simp only [plain, Option.map_some, Option.bind_some]
    cases parseSums left r <;> rfl

theorem plain_parseSums_nil (left : Expr) : plain (parseSums left []) = some (left, []) := by
  rw [parseSums]
  rfl

/-- A sign adds a term to the sum so far, and any other token ends the sum. -/
theorem plain_parseSums_cons (left : Expr) (t : Token) (rest : List Token) :
    plain (parseSums left (t :: rest)) =
      match sumOperator? t with
      | none => some (left, t :: rest)
      | some op => (plain (parseTerm rest)).bind fun (right, r) =>
          plain (parseSums (.binary op left right) r) := by
  rw [parseSums]
  cases sumOperator? t with
  | none => rfl
  | some op =>
    dsimp only
    cases parseTerm rest with
    | none => rfl
    | some x =>
      obtain ⟨right, r, h⟩ := x
      simp only [plain, Option.map_some, Option.bind_some]
      cases parseSums (.binary op left right) r <;> rfl

/-- A term is a unary expression, and then what its products add to it. -/
theorem plain_parseTerm (ts : List Token) :
    plain (parseTerm ts) =
      (plain (parseUnary ts)).bind fun (left, r) => plain (parseProducts left r) := by
  rw [parseTerm]
  cases parseUnary ts with
  | none => rfl
  | some x =>
    obtain ⟨left, r, h⟩ := x
    simp only [plain, Option.map_some, Option.bind_some]
    cases parseProducts left r <;> rfl

theorem plain_parseProducts_nil (left : Expr) :
    plain (parseProducts left []) = some (left, []) := by
  rw [parseProducts]
  rfl

/-- A sign adds a factor to the product so far, and any other token ends the product. -/
theorem plain_parseProducts_cons (left : Expr) (t : Token) (rest : List Token) :
    plain (parseProducts left (t :: rest)) =
      match productOperator? t with
      | none => some (left, t :: rest)
      | some op => (plain (parseUnary rest)).bind fun (right, r) =>
          plain (parseProducts (.binary op left right) r) := by
  rw [parseProducts]
  cases productOperator? t with
  | none => rfl
  | some op =>
    dsimp only
    cases parseUnary rest with
    | none => rfl
    | some x =>
      obtain ⟨right, r, h⟩ := x
      simp only [plain, Option.map_some, Option.bind_some]
      cases parseProducts (.binary op left right) r <;> rfl

theorem plain_parseUnary_minus (rest : List Token) :
    plain (parseUnary (.symbol .minus :: rest)) =
      (plain (parseUnary rest)).map fun (e, r) => (.neg e, r) := by
  rw [parseUnary]
  cases parseUnary rest <;> rfl

theorem plain_parseUnary {ts : List Token} (h : ∀ rest, ts ≠ .symbol .minus :: rest) :
    plain (parseUnary ts) = plain (parsePostfix ts) := by
  rw [parseUnary]
  exact h

/-- A postfix expression is a primary expression, and then its suffixes. -/
theorem plain_parsePostfix (ts : List Token) :
    plain (parsePostfix ts) =
      (plain (parsePrimary ts)).bind fun (e, r) => plain (parseSuffixes e r) := by
  rw [parsePostfix]
  cases parsePrimary ts with
  | none => rfl
  | some x =>
    obtain ⟨e, r, h⟩ := x
    simp only [plain, Option.map_some, Option.bind_some]
    cases parseSuffixes e r <;> rfl

/-- A dot and a name make an attribute of what is before them. -/
theorem plain_parseSuffixes_attr (e : Expr) (n : String) (rest : List Token) :
    plain (parseSuffixes e (.symbol .dot :: .name n :: rest)) =
      plain (parseSuffixes (.attr e n) rest) := by
  rw [parseSuffixes]
  cases parseSuffixes (.attr e n) rest <;> rfl

/-- Nothing fits if there is no name behind a dot. -/
theorem plain_parseSuffixes_dot (e : Expr) {rest : List Token}
    (h : ∀ n r, rest ≠ .name n :: r) :
    plain (parseSuffixes e (.symbol .dot :: rest)) = none := by
  rw [parseSuffixes]
  · rfl
  · exact h

/-- A parenthesis makes a call of what is before it. -/
theorem plain_parseSuffixes_call (e : Expr) (rest : List Token) :
    plain (parseSuffixes e (.symbol .parenOpen :: rest)) =
      (plain (parseArguments rest)).bind fun (args, r) =>
        plain (parseSuffixes (.call e args) r) := by
  rw [parseSuffixes]
  cases parseArguments rest with
  | none => rfl
  | some x =>
    obtain ⟨args, r, h⟩ := x
    simp only [plain, Option.map_some, Option.bind_some]
    cases parseSuffixes (.call e args) r <;> rfl

/-- Any other token ends the suffixes. -/
theorem plain_parseSuffixes (e : Expr) {ts : List Token}
    (hdot : ∀ rest, ts ≠ .symbol .dot :: rest) (hopen : ∀ rest, ts ≠ .symbol .parenOpen :: rest) :
    plain (parseSuffixes e ts) = some (e, ts) := by
  rw [parseSuffixes]
  · rfl
  · exact fun n rest => hdot (.name n :: rest)
  · exact hdot
  · exact hopen

theorem plain_parseArguments_close (rest : List Token) :
    plain (parseArguments (.symbol .parenClose :: rest)) = some ([], rest) := by
  rw [parseArguments]
  rfl

theorem plain_parseArguments {ts : List Token} (h : ∀ rest, ts ≠ .symbol .parenClose :: rest) :
    plain (parseArguments ts) = plain (parseSomeArguments ts) := by
  rw [parseArguments]
  exact h

/-- Behind an argument the call is closed, or a comma is followed by more arguments. -/
theorem plain_parseSomeArguments (ts : List Token) :
    plain (parseSomeArguments ts) =
      match plain (parseExpression ts) with
      | some (e, .symbol .parenClose :: r) => some ([e], r)
      | some (e, .symbol .comma :: r) =>
        (plain (parseSomeArguments r)).map fun (args, r) => (e :: args, r)
      | _ => none := by
  rw [parseSomeArguments]
  cases parseExpression ts with
  | none => rfl
  | some x =>
    obtain ⟨e, r, h⟩ := x
    simp only [plain, Option.map_some]
    split
    · next heq =>
      simp only [Option.some.injEq, Prod.mk.injEq, Subtype.mk.injEq] at heq
      obtain ⟨rfl, rfl⟩ := heq
      rfl
    · next heq =>
      simp only [Option.some.injEq, Prod.mk.injEq, Subtype.mk.injEq] at heq
      obtain ⟨rfl, rfl⟩ := heq
      dsimp only
      cases parseSomeArguments _ <;> rfl
    · next hclose hcomma =>
      split
      · next heq =>
        simp only [Option.some.injEq, Prod.mk.injEq] at heq
        obtain ⟨rfl, rfl⟩ := heq
        exact absurd rfl (hclose _ _ _)
      · next heq =>
        simp only [Option.some.injEq, Prod.mk.injEq] at heq
        obtain ⟨rfl, rfl⟩ := heq
        exact absurd rfl (hcomma _ _ _)
      · rfl

/-- An expression between parentheses is a primary expression, and the parentheses leave no trace in
    the tree. -/
theorem plain_parsePrimary_group (rest : List Token) :
    plain (parsePrimary (.symbol .parenOpen :: rest)) =
      match plain (parseExpression rest) with
      | some (e, .symbol .parenClose :: r) => some (e, r)
      | _ => none := by
  rw [parsePrimary]
  cases parseExpression rest with
  | none => rfl
  | some x =>
    obtain ⟨e, r, h⟩ := x
    simp only [plain, Option.map_some]
    split
    · next heq =>
      simp only [Option.some.injEq, Prod.mk.injEq, Subtype.mk.injEq] at heq
      obtain ⟨rfl, rfl⟩ := heq
      rfl
    · next hclose =>
      split
      · next heq =>
        simp only [Option.some.injEq, Prod.mk.injEq] at heq
        obtain ⟨rfl, rfl⟩ := heq
        exact absurd rfl (hclose _ _ _)
      · rfl

/-! ## Statements and programs -/

theorem plain_behind {ts : List Token} (t : Token) (p : Parsed α ts) :
    plain (p.behind t) = plain p := by
  simp only [Parsed.behind, plain, Option.map_map]
  rfl

theorem plain_parseAs (make : Expr → Stmt) (ts : List Token) :
    plain (parseAs make ts) = (plain (parseExpression ts)).map fun (e, r) => (make e, r) := by
  simp only [parseAs, plain, Option.map_map]
  rfl

/-- A name and an equals sign start an assignment, unless the name is a keyword. -/
theorem plain_parseStatement_assign (n : String) (rest : List Token) :
    plain (parseStatement (.name n :: .symbol .equals :: rest)) =
      if isKeyword n then none
      else (plain (parseExpression rest)).map fun (e, r) => (.assign n e, r) := by
  rw [parseStatement]
  split
  · rfl
  · rw [plain_behind, plain_behind, plain_parseAs]

/-- A name without an equals sign starts what its keyword says, or else an expression. -/
theorem plain_parseStatement_name (n : String) {rest : List Token}
    (h : ∀ r, rest ≠ .symbol .equals :: r) :
    plain (parseStatement (.name n :: rest)) =
      if n = "import" then plain (parseImport rest)
      else if n = "from" then plain (parseImportAll rest)
      else if n = "raise" then (plain (parseExpression rest)).map fun (e, r) => (.raise e, r)
      else (plain (parseExpression (.name n :: rest))).map fun (e, r) => (.expr e, r) := by
  rw [parseStatement]
  · split
    · rw [plain_behind]
    split
    · rw [plain_behind]
    split
    · rw [plain_behind, plain_parseAs]
    · rw [plain_parseAs]
  · exact h

/-- What starts with no name is an expression. -/
theorem plain_parseStatement {ts : List Token} (h : ∀ n r, ts ≠ .name n :: r) :
    plain (parseStatement ts) = (plain (parseExpression ts)).map fun (e, r) => (.expr e, r) := by
  rw [parseStatement]
  · rw [plain_parseAs]
  · exact fun n rest => h n (.symbol .equals :: rest)
  · exact h

/-- A program of ends of lines has no statements. -/
theorem parseProgram_of_blank {ts : List Token} (h : skipNewlines ts = []) :
    parseProgram ts = some [] := by
  rw [parseProgram]
  split
  · rfl
  · next h' => exact absurd (h.symm.trans h') (by simp)

/-- A program is read statement by statement, with the ends of lines before it skipped. -/
theorem parseProgram_of_statement {ts : List Token} {t : Token} {rest : List Token}
    (h : skipNewlines ts = t :: rest) :
    parseProgram ts =
      match plain (parseStatement (t :: rest)) with
      | some (s, []) => some [s]
      | some (s, .newline :: r) => (parseProgram r).map (s :: ·)
      | _ => none := by
  rw [parseProgram]
  split
  · next h' => exact absurd (h.symm.trans h') (by simp)
  next t' rest' h' =>
    cases h.symm.trans h'
    cases parseStatement (t :: rest) with
    | none => rfl
    | some x =>
      obtain ⟨s, r, hr⟩ := x
      simp only [plain, Option.map_some]
      cases r with
      | nil => rfl
      | cons t r => cases t <;> rfl

/-- A whole expression is one with no token behind it. -/
theorem parseWholeExpression_eq (ts : List Token) :
    parseWholeExpression ts =
      match plain (parseExpression ts) with
      | some (e, []) => some e
      | _ => none := by
  rw [parseWholeExpression]
  cases parseExpression ts with
  | none => rfl
  | some x =>
    obtain ⟨e, r, h⟩ := x
    cases r <;> rfl

end LedBoard.Script
