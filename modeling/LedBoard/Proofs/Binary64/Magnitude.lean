import LedBoard.Binary64.Basic
import Mathlib.Tactic.Ring

/-!
# The magnitude of rounded numbers

Rounding to a floating-point number keeps two things about naturals exactly, however coarse it is
elsewhere: a natural below 2 ^ 53 is not changed at all (`ofNat_of_lt`), and a quotient that is at
least a power of two is rounded to a number that is at least this power (`atLeast_ofRatio`). The
latter is so because the powers of two are numbers themselves; it holds of products and so of
everything made from naturals and powers of ten (`atLeast_mul`).

The magnitude of a number is a quotient, and is compared as such (`AtLeast`).
-/

namespace LedBoard.Binary64.Finite

/-- The magnitude is at least 2 ^ `j`. -/
def AtLeast (x : Finite) (j : Nat) : Prop := 2 ^ j * x.ratio.2 ≤ x.ratio.1

/-- The integer part of the magnitude. -/
def whole (x : Finite) : Nat := x.ratio.1 / x.ratio.2

theorem truncate_eq (x : Finite) :
    x.truncate = if x.negative then -(x.whole : Int) else x.whole := rfl

/-- A fraction is divided by a power of two above the line or below it, as the exponent is negative
    or not. -/
theorem unscale_eq (num den : Nat) (k : Int) :
    unscale num den k = (num * 2 ^ (-k).toNat, den * 2 ^ k.toNat) := rfl

theorem ratio_eq (x : Finite) :
    x.ratio = (x.mantissa * 2 ^ x.exponent.toNat, 2 ^ (-x.exponent).toNat) := by
  rw [ratio, unscale_eq, Int.neg_neg, Nat.one_mul]

theorem ratio_pos (x : Finite) : 0 < x.ratio.2 := by
  rw [ratio_eq]
  exact Nat.two_pow_pos _

theorem AtLeast.le_whole {x : Finite} {j : Nat} (h : x.AtLeast j) : 2 ^ j ≤ x.whole :=
  (Nat.le_div_iff_mul_le x.ratio_pos).2 h

theorem AtLeast.mono {x : Finite} {i j : Nat} (h : x.AtLeast j) (hij : i ≤ j) : x.AtLeast i :=
  Nat.le_trans (Nat.mul_le_mul_right _ (Nat.pow_le_pow_right (by decide) hij)) h

/-- A number with a mantissa of full length is at least what its leading bit stands for. -/
theorem atLeast_of_mantissa {x : Finite} {j : Nat} (hm : 2 ^ 52 ≤ x.mantissa)
    (hj : (j : Int) ≤ x.exponent + 52) : x.AtLeast j := by
  rw [AtLeast, ratio_eq]
  calc 2 ^ j * 2 ^ (-x.exponent).toNat
      = 2 ^ (j + (-x.exponent).toNat) := (Nat.pow_add ..).symm
    _ ≤ 2 ^ (52 + x.exponent.toNat) := Nat.pow_le_pow_right (by decide) (by omega)
    _ = 2 ^ 52 * 2 ^ x.exponent.toNat := Nat.pow_add ..
    _ ≤ x.mantissa * 2 ^ x.exponent.toNat := Nat.mul_le_mul_right _ hm

/-! ## Logarithms of quotients -/

/-- A quotient that is at least one has a logarithm, which is at least that of every power of two
    below it. -/
theorem floorLog2_spec {num den j : Nat} (hden : 0 < den) (h : 2 ^ j * den ≤ num) :
    ∃ k : Nat, floorLog2 num den = k ∧ j ≤ k ∧ 2 ^ k * den ≤ num := by
  have hnum : num ≠ 0 := by
    rintro rfl
    exact absurd h (Nat.not_le.2 (Nat.mul_pos (Nat.two_pow_pos j) hden))
  have hnumLow := Nat.log2_self_le hnum
  have hnumHigh := Nat.lt_log2_self (n := num)
  have hdenLow := Nat.log2_self_le (Nat.pos_iff_ne_zero.1 hden)
  have hdenHigh := Nat.lt_log2_self (n := den)
  -- The difference of the logarithms is right, or too great by one.
  -- The difference of the logarithms is right, or too great by one.
  have hlogs : den.log2 + j ≤ num.log2 := by
    refine Nat.le_of_lt_succ ((Nat.pow_lt_pow_iff_right (a := 2) (by decide)).1 ?_)
    calc 2 ^ (den.log2 + j) = 2 ^ j * 2 ^ den.log2 := by rw [Nat.pow_add, Nat.mul_comm]
      _ ≤ 2 ^ j * den := Nat.mul_le_mul_left _ hdenLow
      _ ≤ num := h
      _ < 2 ^ (num.log2 + 1) := hnumHigh
  obtain ⟨d, hd⟩ : ∃ d, num.log2 = den.log2 + d := Nat.exists_eq_add_of_le (by omega)
  have hk : (num.log2 : Int) - den.log2 = d := by omega
  have hfloor : floorLog2 num den = if 2 ^ d * den ≤ num then (d : Int) else (d : Int) - 1 := by
    rw [floorLog2, hk, unscale_eq]
    simp only [Int.toNat_natCast, Int.toNat_neg_natCast, Nat.pow_zero, Nat.mul_one, Nat.mul_comm]
  by_cases hfits : 2 ^ d * den ≤ num
  · exact ⟨d, by rw [hfloor, if_pos hfits], by omega, hfits⟩
  · have hjd : j < d := by
      refine (Nat.pow_lt_pow_iff_right (a := 2) (by decide)).1 ?_
      exact Nat.lt_of_mul_lt_mul_right (Nat.lt_of_le_of_lt h (Nat.lt_of_not_le hfits))
    refine ⟨d - 1, by rw [hfloor, if_neg hfits]; omega, by omega, ?_⟩
    calc 2 ^ (d - 1) * den ≤ 2 ^ (d - 1) * 2 ^ (den.log2 + 1) :=
          Nat.mul_le_mul_left _ (Nat.le_of_lt hdenHigh)
      _ = 2 ^ num.log2 := by rw [← Nat.pow_add]; congr 1; omega
      _ ≤ num := hnumLow

/-! ## Rounding -/

/-- Rounding to the nearest goes no further down than rounding down. -/
theorem le_roundDiv (a b : Nat) : a / b ≤ roundDiv a b := by
  rw [roundDiv]
  split
  · exact Nat.le_refl _
  · split <;> omega

/-- What a quotient other than zero is rounded to. -/
theorem ofRatio_eq {negative : Bool} {num den : Nat} (hnum : num ≠ 0) {x : Finite}
    (h : ofRatio negative num den = some x) :
    ∃ q m : _, q = max (-1074) (floorLog2 num den - 52) ∧
      m = roundDiv (unscale num den q).1 (unscale num den q).2 ∧
      x = if m = 2 ^ 53 then ⟨negative, 2 ^ 52, q + 1⟩ else ⟨negative, m, q⟩ := by
  refine ⟨_, _, rfl, rfl, ?_⟩
  rw [ofRatio, if_neg hnum] at h
  exact (Option.some.inj (Option.ite_none_left_eq_some.1 h).2).symm

/-- The nearest number to a fraction has the sign that was asked for. -/
theorem negative_ofRatio {negative : Bool} {num den : Nat} {x : Finite}
    (h : ofRatio negative num den = some x) : x.negative = negative := by
  by_cases hnum : num = 0
  · rw [ofRatio, if_pos hnum] at h
    cases h
    rfl
  · obtain ⟨q, m, -, -, rfl⟩ := ofRatio_eq hnum h
    split <;> rfl

/-- A quotient that is at least a power of two is rounded to no less. -/
theorem atLeast_ofRatio {negative : Bool} {num den j : Nat} (hden : 0 < den)
    (hj : 2 ^ j * den ≤ num) {x : Finite} (h : ofRatio negative num den = some x) :
    x.AtLeast j := by
  have hnum : num ≠ 0 := by
    rintro rfl
    exact absurd hj (Nat.not_le.2 (Nat.mul_pos (Nat.two_pow_pos j) hden))
  obtain ⟨q, m, hq, hm, hx⟩ := ofRatio_eq hnum h
  obtain ⟨k, hlog, hjk, hk⟩ := floorLog2_spec hden hj
  have hq : q = (k : Int) - 52 := by omega
  -- The quotient is scaled so that it has 53 digits before its point.
  have hscaled : 2 ^ 52 * (den * 2 ^ q.toNat) ≤ num * 2 ^ (-q).toNat := by
    calc 2 ^ 52 * (den * 2 ^ q.toNat) = 2 ^ (52 + q.toNat) * den := by rw [Nat.pow_add]; ring
      _ = 2 ^ (k + (-q).toNat) * den := by congr 2; omega
      _ = 2 ^ k * den * 2 ^ (-q).toNat := by rw [Nat.pow_add]; ring
      _ ≤ num * 2 ^ (-q).toNat := Nat.mul_le_mul_right _ hk
  have hfull : 2 ^ 52 ≤ m := by
    rw [hm, unscale_eq]
    refine Nat.le_trans ?_ (le_roundDiv _ _)
    exact (Nat.le_div_iff_mul_le (Nat.mul_pos hden (Nat.two_pow_pos _))).2 hscaled
  rw [hx]
  split
  · exact atLeast_of_mantissa (Nat.le_refl _) (by simp only; omega)
  · exact atLeast_of_mantissa hfull (by simp only; omega)

/-- The nearest number to a natural number is not below a power of two that this is not below. -/
theorem atLeast_ofNat {negative : Bool} {n j : Nat} (hj : 2 ^ j ≤ n) {x : Finite}
    (h : ofNat negative n = some x) : x.AtLeast j :=
  atLeast_ofRatio Nat.one_pos (by rwa [Nat.mul_one]) h

/-- Orders of magnitude add up in a product, however it is rounded. -/
theorem atLeast_mul {x y z : Finite} {i j : Nat} (hx : x.AtLeast i) (hy : y.AtLeast j)
    (h : x.mul y = some z) : z.AtLeast (i + j) := by
  refine atLeast_ofRatio (Nat.mul_pos x.ratio_pos y.ratio_pos) ?_ h
  calc 2 ^ (i + j) * (x.ratio.2 * y.ratio.2) = 2 ^ i * x.ratio.2 * (2 ^ j * y.ratio.2) := by
        rw [Nat.pow_add]; ring
    _ ≤ x.ratio.1 * y.ratio.1 := Nat.mul_le_mul hx hy

/-- A natural of at most 53 digits is not changed by rounding. -/
theorem whole_ofNat {negative : Bool} {n : Nat} (hn : n < 2 ^ 53) {x : Finite}
    (h : ofNat negative n = some x) : x.whole = n := by
  by_cases hzero : n = 0
  · subst hzero
    rw [ofNat, ofRatio, if_pos rfl] at h
    cases h
    rw [whole, ratio_eq]
    exact Nat.zero_div _
  · obtain ⟨q, m, hq, hm, hx⟩ := ofRatio_eq hzero h
    have hlow := Nat.log2_self_le hzero
    have hshort : n.log2 < 53 := (Nat.log2_lt hzero).2 hn
    have hlog : floorLog2 n 1 = n.log2 := by
      rw [floorLog2, unscale_eq, show Nat.log2 1 = 0 from rfl]
      simp only [Int.ofNat_zero, Int.sub_zero, Int.toNat_natCast, Int.toNat_neg_natCast,
        Nat.pow_zero, Nat.mul_one, Nat.one_mul, if_pos hlow]
    -- The number is shifted up to 53 bits without a remainder, so nothing is rounded.
    -- The number is shifted up to 53 bits without a remainder, so nothing is rounded.
    obtain ⟨d, hd⟩ : ∃ d, n.log2 + d = 52 := ⟨52 - n.log2, by omega⟩
    have hq : q = -(d : Int) := by omega
    have hm : m = n * 2 ^ d := by
      rw [hm, hq, unscale_eq, roundDiv]
      simp only [Int.neg_neg, Int.toNat_natCast, Int.toNat_neg_natCast, Nat.pow_zero, Nat.mul_one,
        Nat.mod_one, Nat.mul_zero, Nat.div_one, Nat.lt_one_iff, if_true]
    have hfull : m < 2 ^ 53 := by
      calc m = n * 2 ^ d := hm
        _ < 2 ^ (n.log2 + 1) * 2 ^ d :=
          Nat.mul_lt_mul_of_pos_right Nat.lt_log2_self (Nat.two_pow_pos d)
        _ = 2 ^ 53 := by rw [← Nat.pow_add]; congr 1; omega
    rw [hx, if_neg (Nat.ne_of_lt hfull), whole, ratio_eq, hm, hq]
    simp only [Int.neg_neg, Int.toNat_natCast, Int.toNat_neg_natCast, Nat.pow_zero, Nat.mul_one]
    exact Nat.mul_div_cancel n (Nat.two_pow_pos d)

end LedBoard.Binary64.Finite
