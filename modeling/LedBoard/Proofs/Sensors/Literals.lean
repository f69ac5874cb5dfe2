import LedBoard.Proofs.Binary64.Magnitude
import LedBoard.Proofs.Json.Integers
import LedBoard.Sensors

/-!
# Readings of integer literals

A reading that is written as an integer literal is the integer clamped to 32 bits, although it
passes through a floating-point number, which for a long literal is not even the nearest one: up
to 2 ^ 53 a floating-point number is exact, which is well beyond 32 bits, and what is beyond that
stays beyond 32 bits on every way that a literal can take, with its sign.

* `reading_ofNat`: the reading of the nearest floating-point number;
* `reading_scaled`: the reading of a significand with a power of ten;
* `reading_of_isInteger`: the reading of a literal of any length.
-/

namespace LedBoard.Snapshot

open Binary64 (Finite)

/-! ## Clamping -/

theorem toInt_clamp (n : Int) : (clamp n).toInt = max (-2147483648) (min n 2147483647) := by
  rw [clamp, Int32.toInt_minValue, Int32.toInt_maxValue]
  exact Int32.toInt_ofInt_of_le (by omega) (by omega)

theorem clamp_le_clamp {m n : Int} (h : m ≤ n) : clamp m ≤ clamp n := by
  rw [Int32.le_iff_toInt_le, toInt_clamp, toInt_clamp]
  omega

/-- Integers beyond 32 bits on the same side are clamped to the same. -/
theorem clamp_eq_clamp {m n : Int} (h : 2147483647 ≤ m ∧ 2147483647 ≤ n ∨
    m ≤ -2147483648 ∧ n ≤ -2147483648) : clamp m = clamp n := by
  rw [← Int32.toInt_inj, toInt_clamp, toInt_clamp]
  omega

/-! ## Numbers beyond 32 bits -/

/-- A number with the sign of an integer, both of which are beyond 32 bits, reads as the integer
    clamped. -/
theorem reading_of_atLeast {x : Finite} {m : Nat} (hx : x.AtLeast 31) (hm : 2147483648 ≤ m) :
    reading x = clamp (if x.negative then -(m : Int) else m) := by
  have hwhole : 2147483648 ≤ x.whole := hx.le_whole
  rw [reading, Finite.truncate_eq]
  cases x.negative with
  | true =>
    rw [if_pos rfl, if_pos rfl]
    exact clamp_eq_clamp (.inr ⟨by omega, by omega⟩)
  | false =>
    rw [if_neg Bool.false_ne_true, if_neg Bool.false_ne_true]
    exact clamp_eq_clamp (.inl ⟨by omega, by omega⟩)

/-- The nearest floating-point number to an integer reads as the integer clamped. -/
theorem reading_ofNat {n : Int} {x : Finite} (h : Finite.ofNat (n < 0) n.natAbs = some x) :
    reading x = clamp n := by
  have hn : (if x.negative then -(n.natAbs : Int) else n.natAbs) = n := by
    rw [Finite.negative_ofRatio h]
    simp only [decide_eq_true_eq]
    omega
  by_cases hsmall : n.natAbs < 2 ^ 53
  · rw [reading, Finite.truncate_eq, Finite.whole_ofNat hsmall h, hn]
  · have hgreat : 2 ^ 53 ≤ n.natAbs := Nat.le_of_not_lt hsmall
    have hx : x.AtLeast 31 := (Finite.atLeast_ofNat hgreat h).mono (by decide)
    rw [reading_of_atLeast hx (Nat.le_trans (by decide) hgreat), hn]

/-- A great significand with a power of ten is beyond 32 bits, and has the sign that it is
    given. -/
theorem atLeast_scaled {negative : Bool} {significand exponent : Nat} {number : Json.Number}
    (hgreat : 2 ^ 31 ≤ significand)
    (h : Json.scaled negative significand exponent = .ok number) :
    ∃ x : Finite, number = .float x ∧ x.negative = negative ∧ x.AtLeast 31 := by
  have hpower : ∀ {k : Nat} {y : Finite}, Json.powerOfTen k = some y → y.AtLeast 0 := fun hy =>
    Finite.atLeast_ofNat (Nat.pow_pos (by decide)) hy
  rw [Json.scaled] at h
  split at h
  next y hresult =>
    refine ⟨_, (Except.ok.inj h).symm, rfl, ?_⟩
    obtain ⟨x, hx, hresult⟩ := Option.bind_eq_some_iff.1 hresult
    have hx : x.AtLeast 31 := Finite.atLeast_ofNat hgreat hx
    rw [if_neg (Int.not_lt.2 (Int.natCast_nonneg exponent))] at hresult
    -- The sign does not change the magnitude.
    change y.AtLeast 31
    split at hresult
    · obtain ⟨power, hp, hmul⟩ := Option.bind_eq_some_iff.1 hresult
      exact Finite.atLeast_mul hx (hpower hp) hmul
    · split at hresult
      · exact Option.some.inj hresult ▸ hx
      · cases hresult
  next => cases h

/-! ## Literals -/

/-- Minus zero is a floating-point number. -/
theorem scaled_zero : Json.scaled true 0 0 = .ok (.float (Finite.zero true)) := by
  decide +kernel

theorem reading_zero (negative : Bool) : reading (Finite.zero negative) = clamp 0 := by
  have hwhole : (Finite.zero negative).whole = 0 := by
    rw [Finite.whole, Finite.ratio_eq]
    exact (congrArg (· / _) (Nat.zero_mul _)).trans (Nat.zero_div _)
  rw [reading, Finite.truncate_eq, hwhole]
  exact congrArg clamp (ite_self _)

/-- An integer that is taken for a floating-point number reads as the integer clamped, though the
    nearest number may be another. -/
theorem reading_of_integer {n : Int} {x : Finite} (h : Json.float? (.integer n) = .ok x) :
    reading x = clamp n := by
  rw [Json.float?.eq_def] at h
  simp only at h
  split at h
  next heq =>
    cases h
    exact reading_ofNat heq
  next => cases h

/-- What is read of an integer literal without its sign. -/
theorem reading_of_integral {negative : Bool} {digits : List Char} (h : Json.IsWhole digits)
    {x : Finite} {number : Json.Number}
    (hread : Json.readNumber negative digits = .ok (number, []))
    (hfloat : Json.float? number = .ok x) :
    reading x = clamp (if negative then -(Json.value digits : Int) else Json.value digits) := by
  obtain ⟨significand, beyond, heq, hnone, hsome⟩ := Json.readNumber_isWhole negative h
  rw [heq] at hread
  obtain ⟨number, hintegral, hnumber⟩ := Json.map_eq_ok hread
  cases hnumber
  have hscaled : ∀ {significand k : Nat}, 2 ^ 31 ≤ significand → 2147483648 ≤ Json.value digits →
      Json.scaled negative significand k = .ok number →
      reading x = clamp (if negative then -(Json.value digits : Int) else Json.value digits) := by
    intro significand k hgreat hvalue hscaled
    obtain ⟨y, rfl, hnegative, hy⟩ := atLeast_scaled hgreat hscaled
    cases hfloat
    rw [reading_of_atLeast hy hvalue, hnegative]
  rw [Json.integral] at hintegral
  split at hintegral
  next hbeyond =>
    obtain ⟨hgreat, hvalue⟩ := hsome hbeyond
    exact hscaled (Nat.le_trans (by decide) hgreat)
      (Nat.le_trans (by decide) (Nat.le_of_lt hvalue)) hintegral
  next hbeyond =>
    obtain ⟨rfl, -⟩ := hnone (not_not.1 hbeyond)
    cases negative with
    | false =>
      cases hintegral
      exact reading_of_integer hfloat
    | true =>
      rw [if_neg (by decide)] at hintegral
      split at hintegral
      next =>
        cases hintegral
        exact reading_of_integer hfloat
      next hfits =>
        -- Minus zero, or less than the least integer of 64 bits.
        by_cases hzero : Json.value digits = 0
        · rw [hzero] at hintegral ⊢
          have hnumber := scaled_zero.symm.trans hintegral
          cases hnumber
          cases hfloat
          exact reading_zero true
        · have hgreat : 9223372036854775808 < Json.value digits := by
            simp only [Bool.and_eq_true, decide_eq_true_eq, not_and] at hfits
            exact Nat.lt_of_not_le (hfits (Nat.pos_of_ne_zero hzero))
          exact hscaled (Nat.le_trans (by decide) (Nat.le_of_lt hgreat))
            (Nat.le_trans (by decide) (Nat.le_of_lt hgreat)) hintegral

/-- An integer literal that is read reads as the integer clamped. -/
theorem reading_of_isInteger {n : Int} {literal : List Char} (h : Json.IsInteger n literal)
    {x : Finite} (hread : Json.readFloat literal = .ok (x, [])) : reading x = clamp n := by
  rw [Json.readFloat_eq, Json.checked] at hread
  obtain ⟨⟨number, r⟩, hnumeric, hchecked⟩ := Json.bind_eq_ok hread
  obtain ⟨y, hfloat, hy⟩ := Json.map_eq_ok hchecked
  cases hy
  cases h with
  | nonneg h =>
    rw [Json.readNumeric_isWhole _ h] at hnumeric
    rw [reading_of_integral h hnumeric hfloat, if_neg Bool.false_ne_true]
  | neg h =>
    rw [Json.readNumeric_minus] at hnumeric
    rw [reading_of_integral h hnumeric hfloat, if_pos rfl]

end LedBoard.Snapshot
