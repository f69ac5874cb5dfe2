/-!
# Binary64 words

A floating-point number of a script is the word of 64 bits that IEEE 754 calls *binary64*, kept
as its bits: a word that is not a number has a payload, and a word that crosses an interface
must come back with the same one. What a word means is read off its three fields
(`Binary64.meaning`): nothing, an infinity, or a finite number ± m · 2^q (`Finite`).

* `Binary64.same`: equality of the numbers meant. A word that means no number differs from every
  word, itself included, and the two zeros are equal;
* `Finite.ofRatio`: the nearest finite number to a quotient of naturals, a tie going to the even
  mantissa; there is none when the quotient is too large;
* `Finite.mul`, `Finite.div`: product and quotient, rounded once.
-/

namespace LedBoard

/-- A floating-point word. -/
structure Binary64 where
  /-- Sign, exponent and fraction, from the highest bit down. -/
  bits : UInt64
  deriving DecidableEq, Repr, Inhabited

namespace Binary64

/-- The finite number ± `mantissa` · 2 ^ `exponent`. As it is read off a word or rounded, the
    mantissa is below 2 ^ 53 and the exponent between -1074 and 971. -/
structure Finite where
  negative : Bool
  mantissa : Nat
  exponent : Int
  deriving DecidableEq, Repr

/-- What a word means. -/
inductive Meaning
  | notANumber
  | infinite (negative : Bool)
  | finite (x : Finite)
  deriving DecidableEq, Repr

/-- The sign bit is set. -/
def negative (w : Binary64) : Bool := w.bits.toNat / Nat.pow 2 63 % 2 = 1

/-- The field of the exponent. -/
def exponentField (w : Binary64) : Nat := w.bits.toNat / Nat.pow 2 52 % Nat.pow 2 11

/-- The field of the fraction. -/
def fractionField (w : Binary64) : Nat := w.bits.toNat % Nat.pow 2 52

/-- The number a word means. The smallest exponent field means the exponent of the next one
    without the leading bit of the mantissa; the largest means no finite number. -/
def meaning (w : Binary64) : Meaning :=
  if w.exponentField = 2047 then
    if w.fractionField = 0 then .infinite w.negative else .notANumber
  else if w.exponentField = 0 then
    .finite ⟨w.negative, w.fractionField, -1074⟩
  else
    .finite ⟨w.negative, Nat.pow 2 52 + w.fractionField, (w.exponentField : Int) - 1075⟩

/-- The words mean equal numbers. -/
def same (v w : Binary64) : Bool :=
  match v.meaning, w.meaning with
  | .notANumber, _ | _, .notANumber => false
  | .finite x, .finite y => (x.mantissa = 0 && y.mantissa = 0) || v = w
  | _, _ => v = w

namespace Finite

/-- Zero, with a sign. -/
def zero (negative : Bool) : Finite := ⟨negative, 0, -1074⟩

/-- The quotient `a / b` rounded to a natural, a tie going to the even one. -/
def roundDiv (a b : Nat) : Nat :=
  if 2 * (a % b) < b then a / b
  else if b < 2 * (a % b) then a / b + 1
  else a / b + a / b % 2

/-- The quotient `num / den` times 2 ^ `-k`, as a quotient. -/
def unscale (num den : Nat) (k : Int) : Nat × Nat :=
  (num * Nat.pow 2 (-k).toNat, den * Nat.pow 2 k.toNat)

/-- The greatest `k` with 2 ^ `k` at most `num / den`, for positive naturals. -/
def floorLog2 (num den : Nat) : Int :=
  let k : Int := (num.log2 : Int) - den.log2
  let (a, b) := unscale num den k
  if b ≤ a then k else k - 1

/-- The finite number nearest to `num / den`, a tie going to the even mantissa; `none` when that
    lies beyond the greatest finite number. -/
def ofRatio (negative : Bool) (num den : Nat) : Option Finite :=
  if num = 0 then some (zero negative)
  else
    let q := max (-1074) (floorLog2 num den - 52)
    let (a, b) := unscale num den q
    let m := roundDiv a b
    let x : Finite := if m = Nat.pow 2 53 then ⟨negative, Nat.pow 2 52, q + 1⟩ else ⟨negative, m, q⟩
    if 971 < x.exponent then none else some x

/-- The finite number nearest to a natural. -/
def ofNat (negative : Bool) (n : Nat) : Option Finite := ofRatio negative n 1

/-- The magnitude as a quotient of naturals. -/
def ratio (x : Finite) : Nat × Nat := unscale x.mantissa 1 (-x.exponent)

/-- The product, rounded once. -/
def mul (x y : Finite) : Option Finite :=
  ofRatio (x.negative != y.negative) (x.ratio.1 * y.ratio.1) (x.ratio.2 * y.ratio.2)

/-- The quotient by a number other than zero, rounded once. -/
def div (x y : Finite) : Option Finite :=
  ofRatio (x.negative != y.negative) (x.ratio.1 * y.ratio.2) (x.ratio.2 * y.ratio.1)

/-- The number of the other sign. -/
def neg (x : Finite) : Finite := { x with negative := !x.negative }

/-- The integer part, cut toward zero. -/
def truncate (x : Finite) : Int :=
  let n : Nat := x.ratio.1 / x.ratio.2
  if x.negative then -(n : Int) else n

end Finite

end Binary64

end LedBoard
