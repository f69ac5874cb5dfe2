import LedBoard.Binary64.Basic

/-!
# The shortest decimal that reads back

A binary64 number is shown by the fewest decimal digits that read back as the same number.
The reals that read back as m · 2^q form an interval around it, half a unit of the mantissa to
each side (a quarter below a power of two, where the numbers are twice as close), its ends
included when m is even. On the grid of the decimals of n significant digits only the two
neighbours of the number need a test: if any point of the grid lies in the interval, one of
them does. The first grid with a hit is taken, from one digit up to seventeen; of two hits the
nearer. What a way of writing numbers decides for itself is in its `Style`: which of two equally
near decimals it takes, and where it writes a power of ten behind the digits.

* `Finite.shortest`: the decimal;
* `Finite.written`: a finite number in a style;
* `positional`: a word written out in full, without a power of ten (`Style.full`).
-/

namespace LedBoard

namespace Binary64

/-- The decimal `digits` · 10 ^ `exponent`. -/
structure Decimal where
  digits : Nat
  exponent : Int
  deriving DecidableEq, Repr

/-- Which of two equally near decimals is taken. -/
inductive Tie
  | upper
  /-- The one with an even last digit. -/
  | even
  deriving DecidableEq, Repr

/-- The upper one of `n` and `n + 1` is taken. -/
def Tie.takesUpper (n : Nat) : Tie → Bool
  | .upper => true
  | .even => n % 2 = 1

/-- A way of writing numbers. -/
structure Style where
  tie : Tie
  /-- A number is written out in full if so many digits, or fewer than none for zeros behind the
      point, stand in front of its point. -/
  inFull : (whole : Int) → Bool
  /-- A number written out in full shows a point even if it is whole. -/
  pointed : Bool

/-- Every number is written out in full, and a whole one has no point. -/
def Style.full : Style where
  tie := .upper
  inFull _ := true
  pointed := false

/-- The number of decimal digits of a natural; zero has one. -/
def digitCount (n : Nat) : Nat := (Nat.toDigits 10 n).length

/-- The greatest `k` with 10 ^ `k` at most `num / den`, for positive naturals. -/
def floorLog10 (num den : Nat) : Int :=
  if den ≤ num then (digitCount (num / den) : Int) - 1
  else -(digitCount ((den + num - 1) / num - 1) : Int)

namespace Finite

/-- The interval of the reals that read back as a finite number, in quarters of a unit of its
    mantissa. -/
structure Interval where
  low : Nat
  high : Nat
  /-- The ends belong to it. -/
  closed : Bool

/-- The interval of the numbers that read back as `x`. -/
def interval (x : Finite) : Interval where
  low := 4 * x.mantissa - (if x.mantissa = Nat.pow 2 52 ∧ -1074 < x.exponent then 1 else 2)
  high := 4 * x.mantissa + 2
  closed := x.mantissa % 2 = 0

/-- On the grid of the multiples of 10 ^ `p`, the neighbour of `x` that reads back as `x`: the
    nearer one if both do, the one that `tie` takes if both are equally near. -/
def onGrid? (x : Finite) (tie : Tie) (p : Int) : Option Decimal :=
  -- everything is counted in quarters of a unit, over the denominator `b`
  let (a, b) := unscale 1 1 (2 - x.exponent)
  let step := b * Nat.pow 10 p.toNat
  let quarter := a * Nat.pow 10 (-p).toNat
  let value := 4 * x.mantissa * quarter
  let i := x.interval
  let reads (n : Nat) : Bool :=
    if i.closed then i.low * quarter ≤ n * step && n * step ≤ i.high * quarter
    else i.low * quarter < n * step && n * step < i.high * quarter
  let n := value / step
  let beyond := 2 * (value % step)
  let down := reads n
  let up := reads (n + 1)
  if up && (!down || step < beyond || (step = beyond && tie.takesUpper n)) then some ⟨n + 1, p⟩
  else if down then some ⟨n, p⟩
  else none

/-- The shortest decimal that reads back as a finite number other than zero. -/
def shortest (x : Finite) (tie : Tie) : Decimal :=
  let top := floorLog10 x.ratio.1 x.ratio.2
  ((List.range 17).findSome? fun n : Nat => x.onGrid? tie (top - n)).getD ⟨x.mantissa, x.exponent⟩

end Finite

/-- A decimal written out in full, without zeros at the end of the fraction; if it is `pointed`
    and has no fraction, one zero behind the point. -/
def Decimal.positional (d : Decimal) (pointed : Bool) : String :=
  let digits := Nat.toDigits 10 d.digits
  let (whole, fraction) :=
    if 0 ≤ d.exponent then (digits ++ List.replicate d.exponent.toNat '0', [])
    else
      let places := (-d.exponent).toNat
      let padded := List.replicate (places + 1 - digits.length) '0' ++ digits
      (padded.take (padded.length - places),
        ((padded.drop (padded.length - places)).reverse.dropWhile (· = '0')).reverse)
  let shown := if fraction.isEmpty && pointed then ['0'] else fraction
  String.ofList (if shown.isEmpty then whole else whole ++ '.' :: shown)

/-- A decimal with one digit in front of the point, and the power of ten behind it. -/
def Decimal.scientific (d : Decimal) : String :=
  let digits := Nat.toDigits 10 d.digits
  let power := d.exponent + (digits.length - 1 : Nat)
  let fraction := (digits.tail.reverse.dropWhile (· = '0')).reverse
  String.ofList (digits.take 1 ++ (if fraction.isEmpty then [] else '.' :: fraction) ++
    'e' :: (if 0 ≤ power then '+' else '-') :: Nat.toDigits 10 power.natAbs)

/-- A decimal in a style. -/
def Decimal.written (d : Decimal) (style : Style) : String :=
  if style.inFull (d.exponent + digitCount d.digits) then d.positional style.pointed
  else d.scientific

/-- The magnitude of a finite number; zero is written out in full. -/
def Finite.magnitude (x : Finite) (style : Style) : String :=
  if x.mantissa = 0 then (Decimal.mk 0 0).positional style.pointed
  else (x.shortest style.tie).written style

/-- A finite number with its sign; zero may have a sign too. -/
def Finite.written (x : Finite) (style : Style) : String :=
  if x.negative then "-" ++ x.magnitude style else x.magnitude style

/-- A finite number written out in full. -/
def Finite.positional (x : Finite) : String := x.written .full

/-- A word as text. -/
def positional (w : Binary64) : String :=
  match w.meaning with
  | .notANumber => "NaN"
  | .infinite negative => if negative then "-inf" else "inf"
  | .finite x => x.positional

end Binary64

end LedBoard
