/-!
# White space

The white space of a program's source is Unicode's property *White_Space*, which holds more
than the space and the ASCII controls: the next-line control, the no-break space, the spaces
of typography, the separators of lines and of paragraphs. (The zero-width space is not in it.)

* `isBlank_of_isWhitespace`: the white space of Lean's own class is in it;
* `trimEnd`, `trim`: a text less its white space at the end, or at both ends.
-/

namespace LedBoard.Text

/-- The character has the property *White_Space*. -/
def isBlank (c : Char) : Bool :=
  let n := c.toNat
  (9 ≤ n && n ≤ 13) || n == 0x20 || n == 0x85 || n == 0xa0 || n == 0x1680 ||
    (0x2000 ≤ n && n ≤ 0x200a) || n == 0x2028 || n == 0x2029 || n == 0x202f || n == 0x205f ||
    n == 0x3000

/-- A space, a tab and the ends of lines are blank. -/
theorem isBlank_of_isWhitespace {c : Char} (h : c.isWhitespace = true) : isBlank c = true := by
  simp only [Char.isWhitespace, Bool.or_eq_true, decide_eq_true_eq] at h
  rcases h with ((rfl | rfl) | rfl) | rfl <;> decide

/-- The characters less the white space at their end. -/
def trimEndChars (cs : List Char) : List Char :=
  (cs.reverse.dropWhile isBlank).reverse

/-- The characters less the white space at their start and at their end. -/
def trimChars (cs : List Char) : List Char :=
  trimEndChars (cs.dropWhile isBlank)

/-- The text less the white space at its end. -/
def trimEnd (s : String) : String := String.ofList (trimEndChars s.toList)

/-- The text less the white space at both its ends. -/
def trim (s : String) : String := String.ofList (trimChars s.toList)

end LedBoard.Text
