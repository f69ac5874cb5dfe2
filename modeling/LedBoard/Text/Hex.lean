import LedBoard.Text.Utf8

/-!
# Hexadecimal digits

A bit pattern is read from hexadecimal digits, and octets are read from pairs of them.
-/

namespace LedBoard.Text

/-- The value of a hexadecimal digit of either case. -/
def hexDigit? (c : Char) : Option Nat :=
  if '0' ≤ c ∧ c ≤ '9' then some (c.toNat - '0'.toNat)
  else if 'a' ≤ c ∧ c ≤ 'f' then some (c.toNat - 'a'.toNat + 10)
  else if 'A' ≤ c ∧ c ≤ 'F' then some (c.toNat - 'A'.toNat + 10)
  else none

/-- The value of hexadecimal digits. -/
def hexValue? (digits : List Char) : Option Nat :=
  digits.foldlM (fun n c => (hexDigit? c).map (n * 16 + ·)) 0

/-- The octets of pairs of hexadecimal digits. -/
def hexOctets? : List Char → Option Octets
  | [] => some []
  | a :: b :: rest => do
    let n ← hexValue? [a, b]
    let octets ← hexOctets? rest
    return UInt8.ofNat n :: octets
  | [_] => none

end LedBoard.Text
