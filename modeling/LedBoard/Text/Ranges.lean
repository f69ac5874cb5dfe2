/-!
# Ranges of code points

A property of characters that is data rather than a rule is kept as a list of closed ranges
of code points; a character has the property if one of the ranges holds it. The tables built
on this describe only what lies beyond ASCII: inside ASCII each property is a rule of its own.
-/

namespace LedBoard.Text

/-- A list of closed ranges of code points, in increasing order. -/
abbrev Ranges := List (Nat × Nat)

/-- The character `c` lies in one of the ranges. -/
def Ranges.holds (rs : Ranges) (c : Char) : Bool :=
  rs.any fun (lo, hi) => lo ≤ c.toNat && c.toNat ≤ hi

end LedBoard.Text
