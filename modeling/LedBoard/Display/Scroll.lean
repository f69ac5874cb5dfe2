import LedBoard.Display.Led

/-!
# Scrolling text

A text scrolls through the display from right to left, one column a frame. Its characters stand
in a strip, each in a cell of six columns: the five of its picture and a blank one. The frame
`k` shows the five columns of the strip from `k` - 5 on: the text enters at the right edge and
leaves past the left one, and there are 5 + 6 L frames for L characters. Each frame is drawn on
a blank display and held for a while; in the end the display is blanked and held once more.

* `Scroll.strip`: the column of the strip at a position, blank between and beyond the pictures;
* `Scroll.frame`: the strokes that draw one frame;
* `Scroll.film`: all strokes of the animation.
-/

namespace LedBoard

/-- One act of drawing. -/
inductive Stroke
  | clear
  | plot (x y : Nat) (brightness : UInt8)
  | pause (ms : UInt64)
  deriving DecidableEq, Repr

namespace Scroll

/-- The columns of a character in the strip: its picture and a blank one. -/
def cellWidth : Nat := 6

/-- The column of the strip at the position `p`. -/
def strip (text : List Char) (p : Nat) : UInt8 :=
  if h : p % cellWidth < 5 then
    (Glyph.ofChar (text.getD (p / cellWidth) ' ')).get ⟨p % cellWidth, h⟩
  else 0

/-- The strokes of a column of the display: its lit dots, top first. -/
def column (x : Nat) (bits : UInt8) : List Stroke :=
  ((List.range displaySize).filter fun y => bits.toNat.testBit y).map fun y =>
    .plot x y maxBrightness

/-- The strokes that draw the frame `k` on a blank display: the column `x` of the display shows
    the position `k` + x - 5, if it is one. -/
def dots (text : List Char) (k : Nat) : List Stroke :=
  (List.range displaySize).flatMap fun x =>
    if k + x < displaySize then [] else column x (strip text (k + x - displaySize))

/-- The strokes of the frame `k`. -/
def frame (text : List Char) (ms : UInt64) (k : Nat) : List Stroke :=
  .clear :: dots text k ++ [.pause ms]

/-- The strokes of each frame. -/
def frames (text : List Char) (ms : UInt64) : List (List Stroke) :=
  (List.range (displaySize + cellWidth * text.length)).map (frame text ms)

/-- The strokes of the whole animation: the frames, and a blank display in the end. -/
def film (text : List Char) (ms : UInt64) : List Stroke :=
  (frames text ms).flatten ++ [.clear, .pause ms]

end Scroll

end LedBoard
