/-!
# Numbers in words

Numbers are written in decimal digits, without leading zeros, a negative one after a minus
sign (`decimal`), or filled up to a width (`filled`); a bit pattern is written in hexadecimal
digits of a fixed number (`hex`), and a truth value as a word (`truth`).
-/

namespace LedBoard.Text

/-- A natural in decimal digits. -/
def decimalNat (n : Nat) : String := String.ofList (Nat.toDigits 10 n)

/-- An integer in decimal digits. -/
def decimal (n : Int) : String :=
  if n < 0 then "-" ++ decimalNat n.natAbs else decimalNat n.natAbs

/-- A natural in decimal digits, which stand behind as many characters `fill` as bring them to
    the width. -/
def filled (fill : Char) (width n : Nat) : String :=
  let digits := Nat.toDigits 10 n
  String.ofList (List.replicate (width - digits.length) fill ++ digits)

/-- The last `width` hexadecimal digits of a natural, lower case. -/
def hex (width n : Nat) : String :=
  let digits := Nat.toDigits 16 n
  String.ofList (List.replicate (width - digits.length) '0' ++
    digits.drop (digits.length - width))

/-- A truth value in words. -/
def truth (b : Bool) : String := if b then "true" else "false"

/-- The items one after the other, `separator` between them. -/
def joined (separator : String) : List String → String
  | [] => ""
  | [s] => s
  | s :: rest => s ++ separator ++ joined separator rest

end LedBoard.Text
