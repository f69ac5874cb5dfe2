/-!
# Terminated texts

Where texts are handed over without their lengths, a NUL character ends them. A text that holds
one cannot be handed over as it is: it is refused (`holdsNul`), or its NUL characters are left
out (`withoutNul`).
-/

namespace LedBoard.Text

/-- The character that ends a text which is handed over. -/
def nul : Char := '\x00'

/-- The text holds a NUL character. -/
def holdsNul (s : String) : Bool := s.toList.contains nul

/-- The text without its NUL characters. -/
def withoutNul (s : String) : String := String.ofList (s.toList.filter (· != nul))

end LedBoard.Text
