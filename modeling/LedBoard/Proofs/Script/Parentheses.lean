import LedBoard.Proofs.Script.Arithmetic
import LedBoard.Proofs.Script.Modes

/-!
# Arithmetic in sources

An expression of integers can be written in many ways. Each of its operands may stand between
parentheses, and it has to unless it binds closely enough without them: literals and negations
bind closest, then products and quotients, then sums and differences; a left operand may be as
loose as the operator in front of which it stands, since operators associate to the left, and
a right one must be closer (`Arith.Form`).

Whatever way is chosen, the source is read as the expression, and so running it evaluates the
expression: the scan cuts the source into the tokens that are meant, and the grammar derives them,
a term or a factor being joined to those in front of it.

* `expressionOf?_source`: a source is read as the expression that it was written for;
* `evaluate_arithmetic`: how sources of arithmetic run.
-/

namespace LedBoard.Script

open Grammar

namespace Operator

/-- The symbol of an operator. -/
def symbol : Operator → Symbol
  | .add => .plus
  | .sub => .minus
  | .mul => .star
  | .div => .slash

/-- How closely an operator binds its operands. -/
def level : Operator → Nat
  | .add | .sub => 0
  | .mul | .div => 1

end Operator

/-! ## Ways to write an expression -/

/-- A run of characters or of tokens, between parentheses or not. -/
def enclosed {α : Type} (opening closing : α) (parens : Bool) (run : List α) : List α :=
  if parens then opening :: (run ++ [closing]) else run

namespace Arith

/-- A way to write an expression that binds its outermost operands as closely as the level says.
    Operands that bind too loosely stand between parentheses, and others may. -/
inductive Form : Nat → Type
  | literal (n : Nat) (h : n < integerLimit) : Form 2
  | neg (parens : Bool) {l : Nat} (e : Form l) (h : parens = true ∨ 2 ≤ l) : Form 2
  | binary (op : Operator) (parens : Bool) {l : Nat} (a : Form l)
      (ha : parens = true ∨ op.level ≤ l) (parens' : Bool) {m : Nat} (b : Form m)
      (hb : parens' = true ∨ op.level < m) : Form op.level

/-- The level of an expression. -/
def level : Arith → Nat
  | .literal _ _ | .neg _ => 2
  | .binary op _ _ => op.level

/-- The way to write an expression with every operand between parentheses. -/
def full : (e : Arith) → Form e.level
  | .literal n h => .literal n h
  | .neg e => .neg true e.full (.inl rfl)
  | .binary op a b => .binary op true a.full (.inl rfl) true b.full (.inl rfl)

namespace Form

variable {l : Nat}

/-- The expression that is written. -/
def tree {l : Nat} : Form l → Arith
  | .literal n h => .literal n h
  | .neg _ e _ => .neg e.tree
  | .binary op _ a _ _ b _ => .binary op a.tree b.tree

/-- The characters, without any white space. -/
def text {l : Nat} : Form l → List Char
  | .literal n _ => Nat.toDigits 10 n
  | .neg parens e _ => '-' :: enclosed '(' ')' parens e.text
  | .binary op parens a _ parens' b _ =>
    enclosed '(' ')' parens a.text ++ op.symbol.char :: enclosed '(' ')' parens' b.text

/-- The source. -/
def source (w : Form l) : String := String.ofList w.text

/-- The tokens of the source. -/
def tokens {l : Nat} : Form l → List Token
  | .literal n _ => [.int (Int64.ofNat n)]
  | .neg parens e _ =>
    .symbol .minus :: enclosed (.symbol .parenOpen) (.symbol .parenClose) parens e.tokens
  | .binary op parens a _ parens' b _ =>
    enclosed (.symbol .parenOpen) (.symbol .parenClose) parens a.tokens ++
      .symbol op.symbol :: enclosed (.symbol .parenOpen) (.symbol .parenClose) parens' b.tokens

end Form

theorem tree_full (e : Arith) : e.full.tree = e := by
  induction e with
  | literal n h => rfl
  | neg e ih => exact congrArg Arith.neg ih
  | binary op a b iha ihb => exact congrArg₂ (Arith.binary op) iha ihb

-- An expression written with every pair of parentheses, and without those that are redundant.
example :
    (Arith.binary .sub (.literal 1 (by decide))
      (.binary .mul (.literal 2 (by decide)) (.neg (.literal 3 (by decide))))).full.source =
      "(1)-((2)*(-(3)))" := by
  decide

example :
    (Form.binary .sub false (.literal 1 (by decide)) (.inr (by decide)) false
      (.binary .mul false (.literal 2 (by decide)) (.inr (by decide)) false
        (.neg false (.literal 3 (by decide)) (.inr (by decide))) (.inr (by decide)))
      (.inr (by decide))).source = "1-2*-3" := by
  decide

end Arith

/-! ## The scan of a source -/

/-- The characters are scanned as these tokens, whatever is behind them that could not go on as
    a name. -/
def ScansTo (s : List Char) (ts : List Token) : Prop :=
  ∀ r : List Char, (∀ a ∈ r.head?, isNamePart a = false) →
    tokenize (s ++ r) = (tokenize r).map (ts ++ ·)

namespace ScansTo

variable {s s' : List Char} {ts ts' : List Token}

/-- A symbol is no part of a name, so it ends the names and numbers before it. -/
theorem symbol_head (sym : Symbol) (s : List Char) :
    ∀ a ∈ (sym.char :: s).head?, isNamePart a = false := by
  rintro _ ⟨⟩
  cases sym <;> decide

theorem cons_symbol (sym : Symbol) (h : ScansTo s ts) :
    ScansTo (sym.char :: s) (.symbol sym :: ts) := by
  intro r hr
  rw [List.cons_append, (Lexeme.symbol sym (s ++ r)).tokenize_eq, h r hr, Option.map_map]
  rfl

/-- A symbol may stand between any two texts. -/
theorem append_symbol (h : ScansTo s ts) (sym : Symbol) (h' : ScansTo s' ts') :
    ScansTo (s ++ sym.char :: s') (ts ++ .symbol sym :: ts') := by
  intro r hr
  rw [List.append_assoc, List.cons_append, h _ (symbol_head sym _), ← List.cons_append,
    h'.cons_symbol sym r hr, Option.map_map]
  congr 1
  funext us
  exact (List.append_assoc ..).symm

theorem nil : ScansTo [] [] := fun _ _ => (Option.map_id_apply ..).symm

/-- Parentheses around a text are tokens around its tokens. -/
theorem enclosed {parens : Bool} (h : ScansTo s ts) :
    ScansTo (Script.enclosed '(' ')' parens s)
      (Script.enclosed (.symbol .parenOpen) (.symbol .parenClose) parens ts) := by
  cases parens with
  | true => exact (h.append_symbol .parenClose nil).cons_symbol .parenOpen
  | false => exact h

theorem literal {n : Nat} (h : n < integerLimit) :
    ScansTo (Nat.toDigits 10 n) [.int (Int64.ofNat n)] :=
  fun _ hr => ((Spells.int 0 h).lexeme hr).tokenize_eq

end ScansTo

namespace Arith.Form

variable {l : Nat}

/-- The characters of a written expression are scanned to its tokens, in front of anything that does
    not go on with a name. -/
theorem scansTo (w : Form l) : ScansTo w.text w.tokens := by
  induction w with
  | literal n h => exact .literal h
  | neg parens e h ih => exact ih.enclosed.cons_symbol .minus
  | binary op parens a ha parens' b hb iha ihb => exact iha.enclosed.append_symbol _ ihb.enclosed

/-- Parentheses add no white space. -/
theorem isBlank_enclosed {parens : Bool} {s : List Char} (h : ∀ c ∈ s, Text.isBlank c = false) :
    ∀ c ∈ enclosed '(' ')' parens s, Text.isBlank c = false := by
  cases parens with
  | false => exact h
  | true =>
    intro c hc
    simp only [enclosed, if_pos, List.mem_cons, List.mem_append, List.not_mem_nil, or_false] at hc
    rcases hc with rfl | hc | rfl
    · decide
    · exact h c hc
    · decide

theorem isBlank_symbol (s : Symbol) : Text.isBlank s.char = false := by
  cases s <;> decide

/-- There is no white space in the characters. -/
theorem isBlank_text (w : Form l) : ∀ c ∈ w.text, Text.isBlank c = false := by
  induction w with
  | literal n h =>
    exact fun c hc => isBlank_eq_false (isNamePart_of_isDigit
      (Nat.isDigit_of_mem_toDigits (by decide) (by decide) hc))
  | neg parens e h ih => exact List.forall_mem_cons.2 ⟨by decide, isBlank_enclosed ih⟩
  | binary op parens a ha parens' b hb iha ihb =>
    intro c hc
    rcases List.mem_append.1 hc with hc | hc
    · exact isBlank_enclosed iha c hc
    · rcases List.mem_cons.1 hc with rfl | hc
      · exact isBlank_symbol op.symbol
      · exact isBlank_enclosed ihb c hc

end Arith.Form

/-- Without white space there is nothing to cut off. -/
theorem trimChars_eq_self {s : List Char} (h : ∀ c ∈ s, Text.isBlank c = false) :
    Text.trimChars s = s := by
  have hdrop : ∀ t : List Char, (∀ c ∈ t, Text.isBlank c = false) →
      t.dropWhile Text.isBlank = t := by
    intro t ht
    cases t with
    | nil => rfl
    | cons a t => exact List.dropWhile_cons_of_neg (by simp [ht a List.mem_cons_self])
  rw [Text.trimChars, Text.trimEndChars, hdrop s h,
    hdrop s.reverse fun c hc => h c (List.mem_reverse.1 hc), List.reverse_reverse]

/-! ## The grammar of a source -/

namespace Grammar

/-- The grammar derives the tokens as an expression at the level: a sum, a term or a unary
    expression. -/
def Derives (ts : List Token) (e : Expr) : Nat → Prop
  | 0 => ∃ d : Expression, d.tokens = ts ∧ d.tree = e
  | 1 => ∃ d : Term, d.tokens = ts ∧ d.tree = e
  | _ => ∃ d : Unary, d.tokens = ts ∧ d.tree = e

namespace Derives

variable {ts us : List Token} {e e' : Expr}

/-- A term is an expression, and a unary expression is a term. -/
theorem weaken : ∀ {l : Nat}, Derives ts e (l + 1) → Derives ts e l
  | 0, ⟨d, hts, he⟩ =>
    ⟨.mk d .nil, by rw [Expression.tokens, Terms.tokens, List.append_nil, hts], he⟩
  | 1, ⟨d, hts, he⟩ =>
    ⟨.mk d .nil, by rw [Term.tokens, Factors.tokens, List.append_nil, hts], he⟩
  | _ + 2, h => h

theorem of_le {l m : Nat} (h : Derives ts e m) (hl : l ≤ m) : Derives ts e l := by
  induction hl with
  | refl => exact h
  | step _ ih => exact ih h.weaken

/-- An expression between parentheses is as good as any at every level. -/
theorem group {l m : Nat} (h : Derives ts e m) :
    Derives (.symbol .parenOpen :: (ts ++ [.symbol .parenClose])) e l := by
  obtain ⟨d, rfl, rfl⟩ := h.of_le (Nat.zero_le m)
  have hunary :
      Derives (.symbol .parenOpen :: (d.tokens ++ [.symbol .parenClose])) d.tree (l + 2) :=
    ⟨.plain (.mk (.group d) .nil), by
      rw [Unary.tokens, Postfix.tokens, Suffixes.tokens, List.append_nil, Primary.tokens], rfl⟩
  exact hunary.weaken.weaken

/-- An operand is derived at the level where it stands, by its parentheses or its own level. -/
theorem enclosed {l m : Nat} {parens : Bool} (h : Derives ts e m) (hl : parens = true ∨ l ≤ m) :
    Derives (Script.enclosed (.symbol .parenOpen) (.symbol .parenClose) parens ts) e l := by
  cases parens with
  | true => exact h.group
  | false => exact h.of_le (hl.resolve_left Bool.false_ne_true)

theorem neg (h : Derives ts e 2) : Derives (.symbol .minus :: ts) (.neg e) 2 := by
  obtain ⟨d, rfl, rfl⟩ := h
  exact ⟨.neg d, rfl, rfl⟩

/-- A sign between an expression and a term makes an expression: the term is the last one, so sums
    group from the left. -/
theorem sum (sign : SumSign) (h : Derives ts e 0) (h' : Derives us e' 1) :
    Derives (ts ++ sign.token :: us) (.binary sign.operator e e') 0 := by
  obtain ⟨⟨first, rest⟩, rfl, rfl⟩ := h
  obtain ⟨t, rfl, rfl⟩ := h'
  exact ⟨.mk first (rest.snoc sign t), by
    rw [Expression.tokens, Expression.tokens, Terms.tokens_snoc, List.append_assoc],
    rest.tree_snoc sign t _⟩

/-- A sign between a term and a unary expression makes a term, so products group from the left too.
    -/
theorem product (sign : ProductSign) (h : Derives ts e 1) (h' : Derives us e' 2) :
    Derives (ts ++ sign.token :: us) (.binary sign.operator e e') 1 := by
  obtain ⟨⟨first, rest⟩, rfl, rfl⟩ := h
  obtain ⟨u, rfl, rfl⟩ := h'
  exact ⟨.mk first (rest.snoc sign u), by
    rw [Term.tokens, Term.tokens, Factors.tokens_snoc, List.append_assoc],
    rest.tree_snoc sign u _⟩

/-- An operator takes a left operand of its own level and a right operand of the level above. -/
theorem binary (op : Operator) (h : Derives ts e op.level) (h' : Derives us e' (op.level + 1)) :
    Derives (ts ++ .symbol op.symbol :: us) (.binary op e e') op.level := by
  cases op with
  | add => exact sum .plus h h'
  | sub => exact sum .minus h h'
  | mul => exact product .star h h'
  | div => exact product .slash h h'

end Derives

end Grammar

namespace Arith

namespace Form

variable {l : Nat}

/-- The grammar derives the tokens of a source as the expression that it was written for. -/
theorem derives (w : Form l) : Derives w.tokens w.tree.expr l := by
  induction w with
  | literal n h => exact ⟨.plain (.mk (.int _) .nil), rfl, rfl⟩
  | neg parens e h ih => exact (ih.enclosed h).neg
  | binary op parens a ha parens' b hb iha ihb =>
    exact .binary op (iha.enclosed ha) (ihb.enclosed hb)

/-- A source is read as the expression that it was written for. -/
theorem expressionOf?_source (w : Form l) : expressionOf? w.source = some w.tree.expr := by
  obtain ⟨d, hts, htree⟩ := w.derives.of_le (Nat.zero_le l)
  have hscan := w.scansTo [] fun a ha => absurd ha (by simp)
  rw [List.append_nil, tokenize_nil, Option.map_some, List.append_nil] at hscan
  refine expressionOf?_eq_some_iff.2 ⟨d, ?_, htree⟩
  rw [source, String.toList_ofList, trimChars_eq_self w.isBlank_text, hscan, hts]

end Form

/-! ## The run of a source -/

variable {σ : Type} (i : Interpreter σ)

theorem complete_divisionByZero :
    i.complete (.error ⟨.zeroDivisionError, "division by zero"⟩) =
      (.error "ZeroDivisionError: division by zero\n",
        { i with pending := some ⟨.zeroDivisionError, "division by zero"⟩ }) := by
  have hexit : Exception.asksToExit ⟨.zeroDivisionError, "division by zero"⟩ = false := by
    simp [Exception.asksToExit, ExceptionClass.derivesFrom, ExceptionClass.parent]
  rw [Interpreter.complete, hexit]
  rfl

/-- What the run of a source of arithmetic tells and leaves behind. -/
theorem evaluate_source {l : Nat} (w : Form l) (h : w.tree.Fits) (s : σ) :
    ∃ r : Option Int64, w.tree.result = r.map Int64.toInt ∧
      i.evaluate w.source s = .ok (i.counted.complete (ending r), s) := by
  obtain ⟨r, hr, hrun⟩ := eval_expr h i.counted s
  refine ⟨r, hr, ?_⟩
  rw [i.evaluate_eq w.expressionOf?_source, Run.map_apply, hrun]
  rfl

/-- However an expression of integers is written, with every operand between parentheses or without
    those that are redundant, the run of the source has one completion.

    Without quotients, and where the least integer is not negated, it is the value of the 64-bit
    integer that is congruent to the value over the unbounded integers. With quotients it is the
    exception of a division by zero exactly if the evaluation comes to a divisor that is zero, and
    otherwise a value in which every quotient is the exact one, cut toward zero. -/
theorem evaluate_arithmetic (e : Arith) (s : σ) :
    e.full.tree = e ∧ ∀ (l : Nat) (w : Form l), w.tree = e →
      (e.NoQuotient → (∀ a, Reaches e (.neg a) → wrap a.value ≠ least) →
        ∃ n : Int64,
          n.toInt % 18446744073709551616 = e.value % 18446744073709551616 ∧
          i.evaluate w.source s = .ok ((.value (Text.decimal n.toInt), i.counted), s)) ∧
      (e.Fits →
        (i.evaluate w.source s = .ok ((.error "ZeroDivisionError: division by zero\n",
          { i.counted with pending := some ⟨.zeroDivisionError, "division by zero"⟩ }), s) ↔
          e.DividesByZero) ∧
        (¬ e.DividesByZero →
          (∃ n : Int64, e.result = some n.toInt ∧
            i.evaluate w.source s = .ok ((.value (Text.decimal n.toInt), i.counted), s)) ∧
          ∀ a b, Reaches e (.binary .div a b) →
            ∃ x y q : Int64, (i.counted.eval a.expr).run s = .ok (.ok (.int x), s) ∧
              (i.counted.eval b.expr).run s = .ok (.ok (.int y), s) ∧ y ≠ 0 ∧
              (i.counted.eval (Arith.binary .div a b).expr).run s = .ok (.ok (.int q), s) ∧
              q.toInt = x.toInt.tdiv y.toInt)) := by
  refine ⟨tree_full e, ?_⟩
  rintro l w rfl
  constructor
  · intro hnone hneg
    -- Without quotients there is a result, which is the value cut down to 64 bits.
    obtain ⟨r, hr, hrun⟩ := evaluate_source i w (fits_of_noQuotient hnone hneg) s
    rw [result_of_noQuotient hnone] at hr
    cases r with
    | none => cases hr
    | some n =>
      refine ⟨n, ?_, hrun⟩
      rw [← Option.some.inj hr]
      exact Int.bmod_emod
  · intro hfits
    -- The run has one end, so it is the error just if there is no result.
    obtain ⟨r, hr, hrun⟩ := evaluate_source i w hfits s
    cases r with
    | none =>
      have hzero := result_eq_none_iff.1 hr
      rw [ending, complete_divisionByZero] at hrun
      exact ⟨⟨fun _ => hzero, fun _ => hrun⟩, fun h => absurd hzero h⟩
    | some n =>
      have hzero : ¬ w.tree.DividesByZero := fun h => by
        rw [result_eq_none_iff.2 h] at hr
        cases hr
      refine ⟨⟨fun h => ?_, fun h => absurd h hzero⟩, fun _ => ⟨⟨n, hr, hrun⟩, fun a b hab =>
        eval_quotient hfits hzero hab i.counted s⟩⟩
      cases hrun.symm.trans h

end Arith

end LedBoard.Script
