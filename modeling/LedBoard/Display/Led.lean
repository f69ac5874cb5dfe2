import LedBoard.Glyph
import LedBoard.Json.Writer

/-!
# The display

The display is driven by two commands: one sets the brightness of one dot, the other blanks all
dots. A command is written as a call (`Command.text`) or as a message to the page that shows the
display (`Command.toJson`).

`Leds` is the display as the page shows it: 25 dots, the dot of column x and row y in the cell
5 x + y. A dot brighter than nine is shown at nine, and a command for a dot beyond the display
does nothing.

* `Leds.replay`: the display after a sequence of commands;
* `Leds.render`: the display as five rows of text, a dot that is off as a point and a lit one as
  the digit of its brightness.
-/

namespace LedBoard

/-- The greatest brightness of a dot. -/
def maxBrightness : UInt8 := 9

/-! ## Commands -/

/-- What is sent to the display. -/
inductive Command
  | setPixel (x y brightness : UInt8)
  | clearDisplay
  deriving DecidableEq, Repr

namespace Command

/-- The name of the function called. -/
def function : Command → String
  | .setPixel .. => "setPixel"
  | .clearDisplay => "clearDisplay"

/-- The arguments of the call. -/
def args : Command → List UInt8
  | .setPixel x y brightness => [x, y, brightness]
  | .clearDisplay => []

/-- The command as a call. -/
def text (c : Command) : String :=
  c.function ++ "(" ++ Text.joined "," (c.args.map fun a => Text.decimalNat a.toNat) ++ ")"

/-- The command as a message to the page. -/
def toJson (c : Command) : String :=
  Json.writeObject [("type", Json.writeString "call"), ("func", Json.writeString c.function),
    ("args", Json.writeArray (c.args.map fun a => Text.decimalNat a.toNat))]

/-- The command sets a dot. -/
def isSetPixel : Command → Bool
  | .setPixel .. => true
  | .clearDisplay => false

end Command

/-! ## The dots -/

/-- The brightness of every dot. -/
structure Leds where
  cells : Vector UInt8 25
  deriving DecidableEq, Repr

namespace Leds

/-- All dots are off. -/
def blank : Leds := ⟨Vector.replicate 25 0⟩

/-- The cell of a column and a row of the display. -/
def index (x y : Fin 5) : Fin 25 := ⟨5 * x.val + y.val, by omega⟩

/-- The brightness of the dot of a column and a row. -/
def brightness (l : Leds) (x y : Fin 5) : UInt8 := l.cells[index x y]

/-- The cell 5 x + y, for any x and y. -/
def cell? (l : Leds) (x y : Nat) : Except Crash UInt8 :=
  match l.cells[5 * x + y]? with
  | some v => .ok v
  | none => .error .indexOutOfRange

/-- The display after a command. -/
def apply (l : Leds) : Command → Leds
  | .clearDisplay => blank
  | .setPixel x y brightness =>
    if h : x.toNat < 5 ∧ y.toNat < 5 then
      ⟨l.cells.set (index ⟨x.toNat, h.1⟩ ⟨y.toNat, h.2⟩) (min brightness maxBrightness)⟩
    else l

/-- The display after a sequence of commands. -/
def replay (l : Leds) (commands : List Command) : Leds := commands.foldl apply l

/-- All dots are off. -/
def isBlank (l : Leds) : Bool := l.cells.all (· == 0)

/-- The sign of a dot: a point or the digit of its brightness. -/
def sign (brightness : UInt8) : Char :=
  if brightness = 0 then '.' else Char.ofNat (48 + brightness.toNat)

/-- The five rows, top first, each five signs and the end of a line. -/
def render (l : Leds) : String :=
  String.ofList ((List.finRange 5).flatMap fun y =>
    ((List.finRange 5).map fun x => sign (l.brightness x y)) ++ ['\n'])

end Leds

end LedBoard
