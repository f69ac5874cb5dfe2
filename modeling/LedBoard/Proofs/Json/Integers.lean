import LedBoard.Proofs.Json.Locality
import LedBoard.Text.Decimal
import Mathlib.Algebra.Group.Nat.Defs

/-!
# Integer literals

An integer literal is a number without a fraction and an exponent (`IsInteger`). Its significand
is the longest start of its digits that fits into 64 bits; the digits beyond it are only counted.
So a literal of which all digits fit is read exactly, and of any other one the significand is at
least a tenth of the greatest that fits, and the number is at least the significand with as many
zeros behind it as digits are left (`takeDigits_eq`).

* `readNumber_isWhole`: an integer literal of any length;
* `readNumber_toDigits`: the digits of a natural of 64 bits.
-/

namespace LedBoard.Json

/-- The number that digits stand for, behind the digits of `n`. -/
def valueBehind (n : Nat) (digits : List Char) : Nat := Nat.ofDigitChars 10 digits n

/-- The number that digits stand for. -/
def value (digits : List Char) : Nat := valueBehind 0 digits

/-- The text is a literal of the integer: its digits, or digits behind a minus sign. -/
inductive IsInteger : Int → List Char → Prop
  | nonneg {digits : List Char} (h : IsWhole digits) : IsInteger (value digits) digits
  | neg {digits : List Char} (h : IsWhole digits) : IsInteger (-(value digits)) ('-' :: digits)

/-- A digit behind others multiplies what they stand for by ten. -/
theorem valueBehind_cons (n : Nat) (c : Char) (digits : List Char) :
    valueBehind n (c :: digits) = valueBehind (n * 10 + digitValue c) digits := by
  rw [valueBehind, Nat.ofDigitChars_cons, Nat.mul_comm 10 n]
  rfl

theorem le_valueBehind (n : Nat) (digits : List Char) : n ≤ valueBehind n digits := by
  rw [valueBehind, Nat.ofDigitChars_eq_ofDigitChars_zero]
  exact Nat.le_trans (Nat.le_mul_of_pos_left n (Nat.pow_pos (by decide))) (Nat.le_add_right _ _)

/-- The digits that are taken onto a significand that fits, and those beyond them, the first of
    which does not fit. -/
theorem takeDigits_eq {n : Nat} (hn : n ≤ maxSignificand) {digits : List Char}
    (h : ∀ c ∈ digits, c.isDigit = true) :
    ∃ taken beyond, digits = taken ++ beyond ∧
      takeDigits n digits = (valueBehind n taken, taken.length, beyond) ∧
      valueBehind n taken ≤ maxSignificand ∧
      ∀ c ∈ beyond.head?, maxSignificand < valueBehind n taken * 10 + digitValue c := by
  induction digits generalizing n with
  | nil => exact ⟨[], [], rfl, rfl, hn, fun c hc => by cases hc⟩
  | cons c digits ih =>
    obtain ⟨hc, hdigits⟩ := List.forall_mem_cons.1 h
    by_cases hfits : n * 10 + digitValue c ≤ maxSignificand
    · obtain ⟨taken, beyond, rfl, htake, hle, hbeyond⟩ := ih hfits hdigits
      rw [← valueBehind_cons] at htake hle hbeyond
      refine ⟨c :: taken, beyond, rfl, ?_, hle, hbeyond⟩
      rw [takeDigits, if_pos (by rw [hc, decide_eq_true hfits]; rfl), htake]
      rfl
    · refine ⟨[], c :: digits, rfl, ?_, hn, ?_⟩
      · rw [takeDigits, decide_eq_false hfits, Bool.and_false, if_neg Bool.false_ne_true]
        rfl
      · rintro _ ⟨⟩
        exact Nat.lt_of_not_le hfits

theorem digitValue_le_nine {c : Char} (hc : c.isDigit = true) : digitValue c ≤ 9 := by
  simp only [Char.isDigit, Bool.and_eq_true, decide_eq_true_eq] at hc
  have := UInt32.le_iff_toNat_le.1 hc.2
  change c.toNat ≤ 57 at this
  rw [digitValue]
  omega

/-- An integer literal without its sign is read as a whole: its significand, and how many digits
    are beyond it. If there are none, the significand is the number. Otherwise the number does not
    fit, and the significand is great. -/
theorem readNumber_isWhole (negative : Bool) {digits : List Char} (h : IsWhole digits) :
    ∃ significand beyond,
      readNumber negative digits = (integral negative significand beyond).map (·, []) ∧
      (beyond = 0 → significand = value digits ∧ value digits ≤ maxSignificand) ∧
      (beyond ≠ 0 → 2 ^ 60 ≤ significand ∧ maxSignificand < value digits) := by
  obtain ⟨taken, beyond, hdigits, htake, hle, hbeyond⟩ := takeDigits_eq (Nat.zero_le _) h.1.2
  have hall : ∀ c ∈ beyond, c.isDigit = true := fun c hc =>
    h.1.2 c (hdigits ▸ List.mem_append_right taken hc)
  -- The digits that fit make the significand, and those beyond it are only counted.
  refine ⟨value taken, beyond.length, ?_, fun hnone => ?_, fun hsome => ?_⟩
  · have hzero := h.not_zero_digit fun c (hc : c ∈ [].head?) => by cases hc
    rw [List.append_nil] at hzero
    have hstart := startsWithDigit_append h.1 []
    rw [List.append_nil] at hstart
    rw [readNumber_eq, htake, hstart, List.isEmpty_eq_false_iff.2 h.1.1]
    rw [if_neg (by decide), if_neg (by decide), if_neg (by simpa using hzero), readBeyond,
      List.takeWhile_eq_self_iff.2 hall, List.dropWhile_eq_nil_iff.2 hall]
    rfl
  · obtain rfl := List.length_eq_zero_iff.1 hnone
    rw [List.append_nil] at hdigits
    subst hdigits
    exact ⟨rfl, hle⟩
  · cases beyond with
    | nil => exact absurd rfl hsome
    | cons c beyond =>
      -- The first digit beyond did not fit, so the significand is great without it.
      have hgreat := hbeyond c rfl
      have hc := digitValue_le_nine (hall c List.mem_cons_self)
      have hmax : maxSignificand = 18446744073709551615 := by decide
      constructor
      · rw [hmax] at hgreat
        change 2 ^ 60 ≤ valueBehind 0 taken
        omega
      · refine Nat.lt_of_lt_of_le hgreat ?_
        have hvalue : value digits =
            valueBehind (valueBehind 0 taken * 10 + digitValue c) beyond := by
          rw [← valueBehind_cons, hdigits]
          exact Nat.ofDigitChars_append 0
        exact hvalue ▸ le_valueBehind _ _

/-- A literal that starts with a digit is read as a number without a sign. -/
theorem readNumeric_isWhole (expected : String) {digits : List Char} (h : IsWhole digits) :
    readNumeric expected digits = readNumber false digits := by
  obtain ⟨⟨hne, hdigits⟩, -⟩ := h
  obtain ⟨c, s, rfl⟩ := List.exists_cons_of_ne_nil hne
  have hc := hdigits c List.mem_cons_self
  rw [readNumeric, skipBlanks_cons (isBlank_eq_false_of_isDigit hc)]
  split
  next heq =>
    rw [(List.cons.inj heq).1] at hc
    cases hc
  next heq =>
    cases heq
    rw [if_pos hc]
  next heq => cases heq

/-- An integer literal starts with no white space. -/
theorem IsInteger.not_blank {n : Int} {literal : List Char} (h : IsInteger n literal) :
    ∀ c ∈ literal.head?, isBlank c = false := by
  cases h with
  | nonneg h => exact fun c hc => isBlank_eq_false_of_isDigit (h.1.2 c (List.mem_of_mem_head? hc))
  | neg h =>
    rintro _ ⟨⟩
    rfl

/-- A minus sign is read as the sign of the number behind it. -/
theorem readNumeric_minus (expected : String) (s : List Char) :
    readNumeric expected ('-' :: s) = readNumber true s := by
  rw [readNumeric, skipBlanks_cons (by rfl)]
  rfl

/-- The decimal digits of a natural are a literal: zero is one digit, and no other natural starts
    with it. -/
theorem isWhole_toDigits (n : Nat) : IsWhole (Nat.toDigits 10 n) := by
  refine ⟨⟨Nat.toDigits_ne_nil, fun c hc => Nat.isDigit_of_mem_toDigits (by decide) (by decide) hc⟩,
    ?_⟩
  induction n using Nat.strongRecOn with
  | ind n ih =>
    by_cases hn : n < 10
    · rw [Nat.toDigits_of_lt_base hn]
      exact fun hzero => congrArg (fun c => [c]) (Option.some.inj hzero)
    · have hbase : 10 ≤ n := Nat.le_of_not_lt hn
      rw [Nat.toDigits_of_base_le (by decide) hbase,
        List.head?_append_of_ne_nil _ Nat.toDigits_ne_nil]
      intro hzero
      -- Only zero itself starts with a zero.
      have hdigits := ih (n / 10) (Nat.div_lt_self (by omega) (by decide)) hzero
      have hvalue : Nat.ofDigitChars 10 (Nat.toDigits 10 (n / 10)) 0 = n / 10 :=
        Nat.ofDigitChars_ten_toDigits
      rw [hdigits] at hvalue
      change 0 = n / 10 at hvalue
      omega

theorem value_toDigits (n : Nat) : value (Nat.toDigits 10 n) = n := Nat.ofDigitChars_ten_toDigits

/-- The digits of a natural of 64 bits are read as the natural. -/
theorem readNumber_toDigits {n : Nat} (hn : n ≤ maxSignificand) :
    readNumber false (Nat.toDigits 10 n) = .ok (.integer n, []) := by
  obtain ⟨significand, beyond, hread, hnone, hsome⟩ := readNumber_isWhole false (isWhole_toDigits n)
  have hbeyond : beyond = 0 := by
    by_contra hbeyond
    have hgreat := (hsome hbeyond).2
    rw [value_toDigits] at hgreat
    omega
  obtain ⟨rfl, -⟩ := hnone hbeyond
  rw [hread, hbeyond, value_toDigits]
  rfl

end LedBoard.Json
