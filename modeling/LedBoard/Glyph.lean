import LedBoard.Error

/-!
# Glyphs

Every printable ASCII character has a picture of five by five dots. A picture is kept column by
column, from the left; in a column the lowest bit is the dot of the top row. A character without
a picture of its own is drawn as a space, which is blank.

* `Glyph.isLit`: whether a dot is lit;
* `Glyph.isLit?`: the same for a column that may lie beyond the picture, which is an error.
-/

namespace LedBoard

/-- The number of columns and of rows of a picture, and of the display. -/
def displaySize : Nat := 5

/-- The picture of a character, one octet a column. -/
abbrev Glyph := Vector UInt8 5

namespace Glyph

/-- The first code point that has a picture: space. -/
def firstPrintable : Nat := 0x20

/-- The last code point that has a picture: tilde. -/
def lastPrintable : Nat := 0x7e

/-- The pictures, from the space on. -/
def table : Vector Glyph 95 := #v[
    #v[0x00, 0x00, 0x00, 0x00, 0x00],  -- space
    #v[0x00, 0x00, 0x17, 0x00, 0x00],  -- !
    #v[0x00, 0x03, 0x00, 0x03, 0x00],  -- "
    #v[0x0a, 0x1f, 0x0a, 0x1f, 0x0a],  -- #
    #v[0x12, 0x15, 0x1f, 0x15, 0x09],  -- $
    #v[0x13, 0x09, 0x04, 0x12, 0x19],  -- %
    #v[0x0a, 0x15, 0x15, 0x0a, 0x10],  -- &
    #v[0x02, 0x01, 0x00, 0x00, 0x00],  -- \'
    #v[0x00, 0x0e, 0x11, 0x00, 0x00],  -- (
    #v[0x00, 0x11, 0x0e, 0x00, 0x00],  -- )
    #v[0x00, 0x0a, 0x04, 0x0a, 0x00],  -- *
    #v[0x00, 0x04, 0x0e, 0x04, 0x00],  -- +
    #v[0x00, 0x10, 0x08, 0x00, 0x00],  -- ,
    #v[0x00, 0x04, 0x04, 0x04, 0x00],  -- -
    #v[0x00, 0x00, 0x10, 0x00, 0x00],  -- .
    #v[0x10, 0x08, 0x04, 0x02, 0x01],  -- /
    #v[0x0e, 0x11, 0x11, 0x0e, 0x00],  -- 0
    #v[0x00, 0x12, 0x1f, 0x10, 0x00],  -- 1
    #v[0x19, 0x15, 0x15, 0x12, 0x00],  -- 2
    #v[0x09, 0x11, 0x15, 0x0b, 0x00],  -- 3
    #v[0x0c, 0x0a, 0x09, 0x1f, 0x08],  -- 4
    #v[0x17, 0x15, 0x15, 0x15, 0x09],  -- 5
    #v[0x08, 0x14, 0x16, 0x15, 0x08],  -- 6
    #v[0x11, 0x09, 0x05, 0x03, 0x01],  -- 7
    #v[0x0a, 0x15, 0x15, 0x15, 0x0a],  -- 8
    #v[0x02, 0x15, 0x0d, 0x05, 0x02],  -- 9
    #v[0x00, 0x0a, 0x00, 0x00, 0x00],  -- :
    #v[0x00, 0x10, 0x0a, 0x00, 0x00],  -- ;
    #v[0x00, 0x04, 0x0a, 0x11, 0x00],  -- <
    #v[0x00, 0x0a, 0x0a, 0x0a, 0x00],  -- =
    #v[0x00, 0x11, 0x0a, 0x04, 0x00],  -- >
    #v[0x00, 0x01, 0x15, 0x05, 0x02],  -- ?
    #v[0x0e, 0x11, 0x15, 0x09, 0x0e],  -- @
    #v[0x1e, 0x05, 0x05, 0x1e, 0x00],  -- A
    #v[0x1f, 0x15, 0x15, 0x0a, 0x00],  -- B
    #v[0x0e, 0x11, 0x11, 0x11, 0x00],  -- C
    #v[0x1f, 0x11, 0x11, 0x0e, 0x00],  -- D
    #v[0x1f, 0x15, 0x15, 0x11, 0x00],  -- E
    #v[0x1f, 0x05, 0x05, 0x01, 0x00],  -- F
    #v[0x0e, 0x11, 0x11, 0x15, 0x0c],  -- G
    #v[0x1f, 0x04, 0x04, 0x1f, 0x00],  -- H
    #v[0x00, 0x11, 0x1f, 0x11, 0x00],  -- I
    #v[0x08, 0x11, 0x11, 0x0f, 0x01],  -- J
    #v[0x1f, 0x04, 0x0a, 0x11, 0x00],  -- K
    #v[0x1f, 0x10, 0x10, 0x10, 0x00],  -- L
    #v[0x1f, 0x02, 0x04, 0x02, 0x1f],  -- M
    #v[0x1f, 0x02, 0x04, 0x08, 0x1f],  -- N
    #v[0x0e, 0x11, 0x11, 0x0e, 0x00],  -- O
    #v[0x1f, 0x05, 0x05, 0x02, 0x00],  -- P
    #v[0x06, 0x09, 0x09, 0x16, 0x00],  -- Q
    #v[0x1f, 0x05, 0x0d, 0x12, 0x00],  -- R
    #v[0x12, 0x15, 0x15, 0x09, 0x00],  -- S
    #v[0x01, 0x01, 0x1f, 0x01, 0x01],  -- T
    #v[0x0f, 0x10, 0x10, 0x0f, 0x00],  -- U
    #v[0x07, 0x08, 0x10, 0x08, 0x07],  -- V
    #v[0x1f, 0x08, 0x04, 0x08, 0x1f],  -- W
    #v[0x1b, 0x04, 0x04, 0x1b, 0x00],  -- X
    #v[0x01, 0x02, 0x1c, 0x02, 0x01],  -- Y
    #v[0x19, 0x15, 0x13, 0x11, 0x00],  -- Z
    #v[0x00, 0x1f, 0x11, 0x11, 0x00],  -- [
    #v[0x01, 0x02, 0x04, 0x08, 0x10],  -- \\
    #v[0x00, 0x11, 0x11, 0x1f, 0x00],  -- ]
    #v[0x00, 0x02, 0x01, 0x02, 0x00],  -- ^
    #v[0x10, 0x10, 0x10, 0x10, 0x10],  -- _
    #v[0x00, 0x01, 0x02, 0x00, 0x00],  -- `
    #v[0x0c, 0x12, 0x12, 0x1e, 0x10],  -- a
    #v[0x1f, 0x14, 0x14, 0x08, 0x00],  -- b
    #v[0x0c, 0x12, 0x12, 0x12, 0x00],  -- c
    #v[0x08, 0x14, 0x14, 0x1f, 0x00],  -- d
    #v[0x0e, 0x15, 0x15, 0x12, 0x00],  -- e
    #v[0x04, 0x1e, 0x05, 0x01, 0x00],  -- f
    #v[0x02, 0x15, 0x15, 0x0f, 0x00],  -- g
    #v[0x1f, 0x04, 0x04, 0x18, 0x00],  -- h
    #v[0x00, 0x1d, 0x00, 0x00, 0x00],  -- i
    #v[0x08, 0x10, 0x10, 0x0d, 0x00],  -- j
    #v[0x1f, 0x04, 0x0a, 0x10, 0x00],  -- k
    #v[0x00, 0x0f, 0x10, 0x10, 0x00],  -- l
    #v[0x1e, 0x02, 0x04, 0x02, 0x1c],  -- m
    #v[0x1e, 0x02, 0x02, 0x1c, 0x00],  -- n
    #v[0x0c, 0x12, 0x12, 0x0c, 0x00],  -- o
    #v[0x1e, 0x0a, 0x0a, 0x04, 0x00],  -- p
    #v[0x04, 0x0a, 0x0a, 0x1e, 0x00],  -- q
    #v[0x1c, 0x02, 0x02, 0x02, 0x00],  -- r
    #v[0x10, 0x14, 0x0a, 0x02, 0x00],  -- s
    #v[0x00, 0x0f, 0x14, 0x14, 0x00],  -- t
    #v[0x0e, 0x10, 0x10, 0x1e, 0x00],  -- u
    #v[0x06, 0x08, 0x10, 0x08, 0x06],  -- v
    #v[0x0e, 0x10, 0x0c, 0x10, 0x0e],  -- w
    #v[0x12, 0x0c, 0x0c, 0x12, 0x00],  -- x
    #v[0x12, 0x14, 0x08, 0x04, 0x02],  -- y
    #v[0x12, 0x1a, 0x16, 0x12, 0x00],  -- z
    #v[0x04, 0x0e, 0x11, 0x11, 0x00],  -- {
    #v[0x00, 0x1f, 0x00, 0x00, 0x00],  -- |
    #v[0x11, 0x11, 0x0e, 0x04, 0x00],  -- }
    #v[0x08, 0x04, 0x04, 0x08, 0x08]]  -- ~

/-- The picture of a character. -/
def ofChar (c : Char) : Glyph :=
  if h : firstPrintable ≤ c.toNat ∧ c.toNat ≤ lastPrintable then
    table.get ⟨c.toNat - firstPrintable, by simp only [firstPrintable, lastPrintable] at h ⊢; omega⟩
  else table[0]

/-- The dot of a column and a row is lit. -/
def isLit (g : Glyph) (column : Fin 5) (row : Nat) : Bool := g[column].toNat.testBit row

/-- Whether the dot of a column and a row is lit, for any column. -/
def isLit? (g : Glyph) (column row : Nat) : Except Crash Bool :=
  if h : column < 5 then .ok (g.isLit ⟨column, h⟩ row) else .error .indexOutOfRange

/-- The rows of the picture, top first; a lit dot is shown as `#`. -/
def rows (g : Glyph) : List String :=
  (List.range 5).map fun y =>
    String.ofList ((List.finRange 5).map fun x => if g.isLit x y then '#' else '.')

end Glyph

end LedBoard
