import LedBoard.Text.Decimal

/-!
# Colors

A terminal shows a text in color between two escape sequences: the first names the color, and
before it boldness, if the text is to be bold; the second ends it. A text can also be bold in its
own color, and underlined besides. Where colors are off the text stands as it is.
-/

namespace LedBoard.Terminal

/-- The colors that are used. -/
inductive Color
  | red
  | yellow
  | cyan
  | brightBlack
  deriving DecidableEq, Repr

/-- The number of a color. -/
def Color.code : Color → Nat
  | .red => 31
  | .yellow => 33
  | .cyan => 36
  | .brightBlack => 90

/-- Whether texts are shown in color. -/
inductive Palette
  | plain
  | vivid
  deriving DecidableEq, Repr

namespace Palette

/-- A text between the escape sequences of a color. -/
def dress (p : Palette) (bold : Bool) (color : Color) (text : String) : String :=
  match p with
  | .plain => text
  | .vivid =>
    "\x1b[" ++ (if bold then "1;" else "") ++ Text.decimalNat color.code ++ "m" ++ text ++ "\x1b[0m"

/-- A text in bold. -/
def bold (p : Palette) (text : String) : String :=
  match p with
  | .plain => text
  | .vivid => "\x1b[1m" ++ text ++ "\x1b[0m"

/-- A text in bold and underlined. -/
def title (p : Palette) (text : String) : String :=
  match p with
  | .plain => text
  | .vivid => "\x1b[1m\x1b[4m" ++ text ++ "\x1b[0m"

/-- A text in a color. -/
def paint (p : Palette) : Color → String → String := p.dress false

/-- A text in a color, and bold. -/
def strong (p : Palette) : Color → String → String := p.dress true

end Palette

end LedBoard.Terminal
