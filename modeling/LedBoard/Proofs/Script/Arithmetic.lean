import LedBoard.Proofs.Script.Failure
import LedBoard.Proofs.Script.Writing

/-!
# Arithmetic

Expressions of integers only: literals, negations and operations (`Arith`). Their values are
defined here over the unbounded integers, apart from any evaluation: sum, difference, product and
negation are cut down to 64 bits with a sign (`wrap`), a quotient is cut toward zero, and there
is none by zero (`Arith.result`). Where there are no quotients, cutting down once at the end is
the same as cutting down at every step (`Arith.value`).

Evaluating such an expression comes to the expressions within it, from the left, until a divisor
is zero (`Arith.Reaches`). Two operations do not fit into 64 bits and would crash, the negation of
the least integer and its quotient by minus one; the evaluation of an expression that does not
come to them has the value that is defined here.

* `eval_expr`: the evaluation of an expression, in terms of its result;
* `result_of_noQuotient`: the result without quotients, in terms of the value;
* `result_eq_none_iff`: there is no result exactly where the evaluation comes to a divisor zero;
* `eval_quotient`: the quotients that an evaluation comes to.
-/

namespace LedBoard.Script

/-- The integer congruent to this one modulo 2^64 that fits into 64 bits with a sign. -/
def wrap (x : Int) : Int := x.bmod 18446744073709551616

/-- The least integer that fits. -/
def least : Int := -9223372036854775808

namespace Operator

/-- What an operator means for unbounded integers, with quotients cut toward zero. -/
def exact : Operator → Int → Int → Int
  | .add, x, y => x + y
  | .sub, x, y => x - y
  | .mul, x, y => x * y
  | .div, x, y => x.tdiv y

/-- The result of an operation, unless it is a quotient by zero. -/
def result : Operator → Int → Int → Option Int
  | .div, x, y => if y = 0 then none else some (exact .div x y)
  | op, x, y => some (wrap (op.exact x y))

end Operator

/-- An expression of integers. -/
inductive Arith
  | literal (n : Nat) (h : n < integerLimit)
  | neg (e : Arith)
  | binary (op : Operator) (a b : Arith)

namespace Arith

/-- The tree of the expression. -/
def expr : Arith → Expr
  | .literal n _ => .int (Int64.ofNat n)
  | .neg e => .neg e.expr
  | .binary op a b => .binary op a.expr b.expr

/-- There are no quotients in the expression. -/
def NoQuotient : Arith → Prop
  | .literal _ _ => True
  | .neg e => e.NoQuotient
  | .binary op a b => op ≠ .div ∧ a.NoQuotient ∧ b.NoQuotient

/-- The value over the unbounded integers. -/
def value : Arith → Int
  | .literal n _ => n
  | .neg e => -e.value
  | .binary op a b => op.exact a.value b.value

/-- The value with every step cut down to 64 bits, unless one divides by zero. -/
def result : Arith → Option Int
  | .literal n _ => some n
  | .neg e => e.result.map fun x => wrap (-x)
  | .binary op a b => a.result.bind fun x => b.result.bind fun y => op.result x y

/-- The evaluation of an expression comes to another one within it. It comes to the right operand
    only if the left one has a result. -/
inductive Reaches : Arith → Arith → Prop
  | self (e : Arith) : Reaches e e
  | neg {e e' : Arith} (h : Reaches e e') : Reaches (.neg e) e'
  | left {op : Operator} {a b e' : Arith} (h : Reaches a e') : Reaches (.binary op a b) e'
  | right {op : Operator} {a b e' : Arith} {x : Int} (ha : a.result = some x)
      (h : Reaches b e') : Reaches (.binary op a b) e'

/-- The evaluation comes to a divisor that is zero. -/
def DividesByZero (e : Arith) : Prop :=
  ∃ a b x, Reaches e (.binary .div a b) ∧ a.result = some x ∧ b.result = some 0

/-- The evaluation comes to no negation of the least integer, and to no quotient of it by minus
    one. -/
structure Fits (e : Arith) : Prop where
  neg : ∀ a, Reaches e (.neg a) → a.result ≠ some least
  div : ∀ a b, Reaches e (.binary .div a b) → a.result = some least → b.result ≠ some (-1)

theorem Reaches.trans {e e' e'' : Arith} (h : Reaches e e') (h' : Reaches e' e'') :
    Reaches e e'' := by
  induction h with
  | self => exact h'
  | neg _ ih => exact .neg (ih h')
  | left _ ih => exact .left (ih h')
  | right ha _ ih => exact .right ha (ih h')

theorem Fits.of_reaches {e e' : Arith} (h : e.Fits) (he : Reaches e e') : e'.Fits :=
  ⟨fun a ha => h.neg a (he.trans ha), fun a b hab => h.div a b (he.trans hab)⟩

/-! ## Results without quotients -/

theorem wrap_literal {n : Nat} (h : n < integerLimit) : wrap n = n := by
  unfold integerLimit at h
  exact Int.bmod_eq_of_le (by omega) (by omega)

/-- Operands may be cut down before an operation that is no quotient. -/
theorem result_wrap {op : Operator} (h : op ≠ .div) (x y : Int) :
    op.result (wrap x) (wrap y) = some (wrap (op.exact x y)) := by
  cases op with
  | add => exact congrArg some (Int.add_bmod_bmod.trans Int.bmod_add_bmod)
  | sub => exact congrArg some (Int.sub_bmod_bmod.trans Int.bmod_sub_bmod)
  | mul => exact congrArg some (Int.mul_bmod_bmod.trans Int.bmod_mul_bmod)
  | div => exact absurd rfl h

/-- Without quotients it is enough to cut down the value at the end. -/
theorem result_of_noQuotient {e : Arith} (h : e.NoQuotient) : e.result = some (wrap e.value) := by
  induction e with
  | literal n hn => exact congrArg some (wrap_literal hn).symm
  | neg e ih =>
    rw [result, ih h]
    exact congrArg some Int.bmod_neg_bmod
  | binary op a b iha ihb =>
    obtain ⟨hop, ha, hb⟩ := h
    rw [result, iha ha, ihb hb]
    exact result_wrap hop _ _

/-- What is within an expression without quotients has none. -/
theorem Reaches.noQuotient {e e' : Arith} (h : Reaches e e') (he : e.NoQuotient) :
    e'.NoQuotient := by
  induction h with
  | self => exact he
  | neg _ ih => exact ih he
  | left _ ih => exact ih he.2.1
  | right _ _ ih => exact ih he.2.2

/-- Without quotients, only negations may not fit. -/
theorem fits_of_noQuotient {e : Arith} (h : e.NoQuotient)
    (hneg : ∀ a, Reaches e (.neg a) → wrap a.value ≠ least) : e.Fits where
  neg a ha := by
    have hnone : a.NoQuotient := ha.noQuotient h
    rw [result_of_noQuotient hnone]
    exact fun heq => hneg a ha (Option.some.inj heq)
  div a b hab := absurd rfl (hab.noQuotient h).1

/-! ## Divisors that are zero -/

/-- What an evaluation comes to has no result only if the whole has none. -/
theorem Reaches.result_eq_none {e e' : Arith} (h : Reaches e e') (he : e'.result = none) :
    e.result = none := by
  induction h with
  | self => exact he
  | neg _ ih => rw [result, ih he]; rfl
  | left _ ih => rw [result, ih he]; rfl
  | right ha _ ih => rw [result, ha, ih he]; rfl

/-- Only a quotient by zero has no result. -/
theorem operatorResult_eq_none_iff {op : Operator} {x y : Int} :
    op.result x y = none ↔ op = .div ∧ y = 0 := by
  cases op <;> simp [Operator.result]

theorem DividesByZero.of_reaches {e e' : Arith} (he : Reaches e e') (h : e'.DividesByZero) :
    e.DividesByZero := by
  obtain ⟨a, b, x, hab, ha, hb⟩ := h
  exact ⟨a, b, x, he.trans hab, ha, hb⟩

/-- There is no result exactly if the evaluation comes to a divisor that is zero. -/
theorem result_eq_none_iff {e : Arith} : e.result = none ↔ e.DividesByZero := by
  constructor
  · intro h
    induction e with
    | literal n hn => cases h
    | neg e ih => exact .of_reaches (.neg (.self e)) (ih (Option.map_eq_none_iff.1 h))
    | binary op a b iha ihb =>
      cases ha : a.result with
      | none => exact .of_reaches (.left (.self a)) (iha ha)
      | some x =>
        cases hb : b.result with
        | none => exact .of_reaches (.right ha (.self b)) (ihb hb)
        | some y =>
          rw [result, ha, hb] at h
          obtain ⟨rfl, rfl⟩ := operatorResult_eq_none_iff.1 h
          exact ⟨a, b, x, .self _, ha, hb⟩
  · rintro ⟨a, b, x, hab, ha, hb⟩
    refine hab.result_eq_none ?_
    rw [result, ha, hb]
    rfl

/-! ## Evaluation -/

variable {σ : Type}

/-- How an evaluation ends: with an integer, or because of a divisor that is zero. -/
def ending : Option Int64 → Except Exception (Object σ)
  | some n => .ok (.int n)
  | none => .error ⟨.zeroDivisionError, "division by zero"⟩

theorem negate_run {n : Int64} (h : n.toInt ≠ least) (s : σ) :
    (Interpreter.negate (.int n)).run s = .ok (.ok (.int (-n)), s) := by
  have hn : n ≠ Int64.minValue := by
    rintro rfl
    exact h Int64.toInt_minValue
  rw [Interpreter.negate, if_neg hn]
  rfl

/-- An operation on 64 bits has the result that is defined over the unbounded integers, unless it
    is the one quotient that does not fit. -/
theorem operate_run {op : Operator} {a b : Int64}
    (h : op = .div → a.toInt = least → b.toInt ≠ -1) (s : σ) :
    ∃ r : Option Int64, op.result a.toInt b.toInt = r.map Int64.toInt ∧
      (Interpreter.operate op (.int a) (.int b)).run s = .ok (ending r, s) := by
  cases op with
  | add => exact ⟨some (a + b), congrArg some (Int64.toInt_add a b).symm, rfl⟩
  | sub => exact ⟨some (a - b), congrArg some (Int64.toInt_sub a b).symm, rfl⟩
  | mul => exact ⟨some (a * b), congrArg some (Int64.toInt_mul a b).symm, rfl⟩
  | div =>
    change ∃ r, _ ∧ (Object.int <$> Interpreter.arithmetic .div a b).run s = _
    rw [Interpreter.arithmetic, Operator.result]
    by_cases hb : b = 0
    · rw [if_pos hb, if_pos (by rw [hb]; rfl)]
      exact ⟨none, rfl, rfl⟩
    · -- The quotient of two 64-bit integers is one of them, but for the one that is excluded.
      have hzero : b.toInt ≠ 0 := fun h => hb (Int64.toInt_inj.1 h)
      have hfits : ¬(a = Int64.minValue ∧ b = -1) := by
        rintro ⟨rfl, rfl⟩
        exact h rfl Int64.toInt_minValue rfl
      have hquotient : (a / b).toInt = a.toInt.tdiv b.toInt := by
        rcases not_and_or.1 hfits with ha | hb
        · exact Int64.toInt_div_of_ne_left _ _ ha
        · exact Int64.toInt_div_of_ne_right _ _ hb
      rw [if_neg hb, if_neg hfits, if_neg hzero]
      exact ⟨some (a / b), congrArg some hquotient.symm, rfl⟩

/-- Nothing that fits crashes, and the evaluation has the result that is defined. -/
theorem eval_expr {e : Arith} (h : e.Fits) (i : Interpreter σ) (s : σ) :
    ∃ r : Option Int64, e.result = r.map Int64.toInt ∧
      (i.eval e.expr).run s = .ok (ending r, s) := by
  induction e with
  | literal n hn =>
    refine ⟨some (Int64.ofNat n), congrArg some (toInt_ofNat hn).symm, ?_⟩
    rw [expr, Interpreter.eval]
    rfl
  | neg e ih =>
    obtain ⟨r, hr, hrun⟩ := ih (h.of_reaches (.neg (.self e)))
    rw [result, expr, Interpreter.eval, hr]
    cases r with
    | none => exact ⟨none, rfl, Raising.bind_run_of_raised hrun _⟩
    | some n =>
      have hn : n.toInt ≠ least := fun hn => h.neg e (.self _) (hr.trans (congrArg some hn))
      rw [Raising.bind_run_of_ok hrun, negate_run hn]
      exact ⟨some (-n), congrArg some (Int64.toInt_neg n).symm, rfl⟩
  | binary op a b iha ihb =>
    obtain ⟨r, hr, hrun⟩ := iha (h.of_reaches (.left (.self a)))
    rw [result, expr, Interpreter.eval, hr]
    -- The evaluation comes to the right operand only where the left one has an integer, and only
    -- there it is known to fit.
    cases r with
    | none => exact ⟨none, rfl, Raising.bind_run_of_raised hrun _⟩
    | some n =>
      obtain ⟨q, hq, hrun'⟩ := ihb (h.of_reaches (.right hr (.self b)))
      rw [Raising.bind_run_of_ok hrun, hq]
      cases q with
      | none => exact ⟨none, rfl, Raising.bind_run_of_raised hrun' _⟩
      | some m =>
        rw [Raising.bind_run_of_ok hrun']
        refine operate_run ?_ s
        rintro rfl hleast hone
        exact h.div a b (.self _) (hr.trans (congrArg some hleast)) (hq.trans (congrArg some hone))

/-- A quotient that an evaluation without a divisor zero comes to is the exact quotient of its
    operands, cut toward zero. -/
theorem eval_quotient {e a b : Arith} (h : e.Fits) (hzero : ¬ e.DividesByZero)
    (hab : Reaches e (.binary .div a b)) (i : Interpreter σ) (s : σ) :
    ∃ x y q : Int64, (i.eval a.expr).run s = .ok (.ok (.int x), s) ∧
      (i.eval b.expr).run s = .ok (.ok (.int y), s) ∧ y ≠ 0 ∧
      (i.eval (Arith.binary .div a b).expr).run s = .ok (.ok (.int q), s) ∧
      q.toInt = x.toInt.tdiv y.toInt := by
  -- What is come to fits and has a result if the whole does, and so do both operands.
  -- What is come to fits and has a result if the whole does, and so do both operands.
  have hfits := h.of_reaches hab
  have hresult : (Arith.binary .div a b).result ≠ none := fun hnone =>
    hzero (result_eq_none_iff.1 (hab.result_eq_none hnone))
  obtain ⟨rx, hx, hrunx⟩ := eval_expr (hfits.of_reaches (.left (.self a))) i s
  obtain ⟨r, hr, hrun⟩ := eval_expr hfits i s
  rw [result, hx] at hresult hr
  cases rx with
  | none => exact absurd rfl hresult
  | some x =>
    obtain ⟨ry, hy, hruny⟩ := eval_expr (hfits.of_reaches (.right hx (.self b))) i s
    rw [hy] at hresult hr
    cases ry with
    | none => exact absurd rfl hresult
    | some y =>
      have hy0 : y.toInt ≠ 0 := fun h0 => hresult (operatorResult_eq_none_iff.2 ⟨rfl, h0⟩)
      change Operator.result .div x.toInt y.toInt = _ at hr
      rw [Operator.result, if_neg hy0] at hr
      cases r with
      | none => cases hr
      | some q =>
        exact ⟨x, y, q, hrunx, hruny, fun h => hy0 (by rw [h]; rfl), hrun,
          (Option.some.inj hr).symm⟩

end Arith

end LedBoard.Script
