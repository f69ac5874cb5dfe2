import LedBoard.Json.Scanner

/-!
# JSON numbers

A number without a fraction and an exponent is an integer if it fits into 64 bits, with or
without a sign; minus zero does not. Every other number is a floating-point number, which is
made in these steps: the leading digits, as far as they fit into 64 bits without a sign, are
the significand; digits of the integer part beyond them count as zeros, and digits of the
fraction beyond them do not count. The significand is rounded to a floating-point number and
then multiplied or divided by the power of ten left over, itself rounded; a power too small for
that is divided off in steps of 10 ^ 308. A result beyond the greatest finite number is an error.

* `readNumber`: reads a number whose value is wanted;
* `skipNumber`: skips a number, which is then never out of range.
-/

namespace LedBoard.Json

open Binary64 (Finite)

/-- A number that was read. -/
inductive Number
  /-- An integer of 64 bits, with or without a sign. -/
  | integer (n : Int)
  | float (x : Finite)
  deriving DecidableEq, Repr

/-- The greatest integer of 64 bits without a sign. -/
def maxSignificand : Nat := Nat.pow 2 64 - 1

/-! ## From decimal to binary -/

/-- The power of ten, rounded. -/
def powerOfTen (k : Nat) : Option Finite := Finite.ofNat false (Nat.pow 10 k)

/-- Divides by 10 ^ `k`, in steps of 10 ^ 308 as long as there is something left to divide. -/
def divideByPower (k : Nat) (x : Finite) : Option Finite :=
  if h : k ≤ 308 then powerOfTen k >>= x.div
  else if x.mantissa = 0 then some x
  else do
    let y ← powerOfTen 308 >>= x.div
    divideByPower (k - 308) y
  termination_by k
  decreasing_by omega

/-- The number `significand` · 10 ^ `exponent` with a sign. -/
def scaled (negative : Bool) (significand : Nat) (exponent : Int) :
    Except Problem Number :=
  let result := do
    let x ← Finite.ofNat false significand
    if exponent < 0 then divideByPower exponent.natAbs x
    else if exponent ≤ 308 then powerOfTen exponent.toNat >>= x.mul
    else if x.mantissa = 0 then some x
    else none
  match result with
  | some x => .ok (.float { x with negative })
  | none => .error .numberOutOfRange

/-! ## Reading -/

/-- The value of a decimal digit. -/
def digitValue (c : Char) : Nat := c.toNat - 48

/-- Takes digits onto the significand `n` as long as it fits: the significand, how many digits
    were taken, and what is left. -/
def takeDigits (n : Nat) : List Char → Nat × Nat × List Char
  | [] => (n, 0, [])
  | c :: rest =>
    if c.isDigit && n * 10 + digitValue c ≤ maxSignificand then
      let (m, count, r) := takeDigits (n * 10 + digitValue c) rest
      (m, count + 1, r)
    else (n, 0, c :: rest)

/-- The first character is a digit. -/
def startsWithDigit : List Char → Bool
  | c :: _ => c.isDigit
  | [] => false

/-- Reads an exponent from behind its `e`. -/
def readExponent (negative : Bool) (significand : Nat) (exponent : Int) (s : List Char) :
    Except Problem (Number × List Char) := do
  let (down, s) := match s with
    | '+' :: r => (false, r)
    | '-' :: r => (true, r)
    | r => (false, r)
  if s.isEmpty then throw (.ended .value)
  if !startsWithDigit s then throw .invalidNumber
  let shift : Nat := (s.takeWhile Char.isDigit).foldl (fun n c => n * 10 + digitValue c) 0
  let x ← scaled negative significand (if down then exponent - shift else exponent + shift)
  return (x, s.dropWhile Char.isDigit)

/-- Ends a number that has an exponent or none. -/
def readScale (negative : Bool) (significand : Nat) (exponent : Int) (s : List Char) :
    Except Problem (Number × List Char) :=
  match s with
  | 'e' :: r | 'E' :: r => readExponent negative significand exponent r
  | r => (scaled negative significand exponent).map (·, r)

/-- Reads a fraction from behind its point. -/
def readFraction (negative : Bool) (significand : Nat) (exponent : Int) (s : List Char) :
    Except Problem (Number × List Char) :=
  if s.isEmpty then .error (.ended .value)
  else if !startsWithDigit s then .error .invalidNumber
  else
    let (significand, count, r) := takeDigits significand s
    readScale negative significand (exponent - count) (r.dropWhile Char.isDigit)

/-- Reads a number from behind its minus sign, if it has one. -/
def readNumber (negative : Bool) (s : List Char) : Except Problem (Number × List Char) :=
  if s.isEmpty then .error (.ended .value)
  else if !startsWithDigit s then .error .invalidNumber
  else if s.head? = some '0' && startsWithDigit s.tail then .error .invalidNumber
  else
    let (significand, _, r) := takeDigits 0 s
    let beyond := r.takeWhile Char.isDigit
    match r.dropWhile Char.isDigit with
    | '.' :: rest => readFraction negative significand beyond.length rest
    | 'e' :: rest | 'E' :: rest => readExponent negative significand beyond.length rest
    | rest =>
      if !beyond.isEmpty then (scaled negative significand beyond.length).map (·, rest)
      else if !negative then .ok (.integer significand, rest)
      else if 1 ≤ significand && significand ≤ Nat.pow 2 63 then .ok (.integer (-significand), rest)
      else (scaled true significand 0).map (·, rest)

/-! ## Skipping -/

/-- Skips digits, of which there must be one. -/
def skipDigits (s : List Char) : Except Problem (List Char) :=
  if startsWithDigit s then .ok (s.dropWhile Char.isDigit) else .error .invalidNumber

/-- Skips an exponent, if there is one. -/
def skipExponent (s : List Char) : Except Problem (List Char) :=
  match s with
  | 'e' :: r | 'E' :: r =>
    match r with
    | '+' :: r | '-' :: r => skipDigits r
    | r => skipDigits r
  | r => .ok r

/-- Skips a number from behind its minus sign, if it has one. -/
def skipNumber (s : List Char) : Except Problem (List Char) := do
  if s.head? = some '0' && startsWithDigit s.tail then throw .invalidNumber
  match ← skipDigits s with
  | '.' :: r => skipExponent (← skipDigits r)
  | r => skipExponent r

end LedBoard.Json
