import LedBoard.Proofs.Board.Calls

/-!
# Drawing with checks

Drawing asks for places in tables and lists, and computes with numbers that must fit into 64 bits
with a sign: the strip of a text begins at a negative position and ends at six times the length
of the text. Here all this is done once more by operations that crash where there is no such
place, no such quotient or no such number. None of them ever crashes, so drawing with checks is
drawing.

The numbers fit only if the text is shorter than 2^60 characters. Of a longer text they are not
checked, but the places still are.

* `film`, `apply`, `display`: the strokes of an animation, the display after a command, and the
  module of the display, with checks;
* `film_eq`, `apply_eq`, `display_eq`: they are what they are without checks.
-/

namespace LedBoard.Checked

/-! ## Partial operations -/

/-- A number that must fit into 64 bits with a sign, if that is checked. -/
def fit (bounded : Bool) (n : Int) : Except Crash Int :=
  if bounded = true ∧ ¬ (Int64.minValue.toInt ≤ n ∧ n ≤ Int64.maxValue.toInt) then
    .error .overflow
  else .ok n

/-- The numbers are checked of texts with fewer characters than this, which is 2^60. -/
def checkedLength : Nat := 1152921504606846976

/-- The difference of two numbers without a sign. -/
def difference (a b : Nat) : Except Crash Nat := if b ≤ a then .ok (a - b) else .error .overflow

/-- The quotient, cut toward zero. -/
def quotient (a b : Int) : Except Crash Int := if b = 0 then .error .overflow else .ok (a.tdiv b)

/-- What is left over of a quotient cut toward zero. -/
def remainder (a b : Int) : Except Crash Int := if b = 0 then .error .overflow else .ok (a.tmod b)

/-- The entry of a list at a place. -/
def entry {α : Type} (xs : List α) (i : Nat) : Except Crash α :=
  match xs[i]? with
  | some a => .ok a
  | none => .error .indexOutOfRange

/-- The bit of an octet, which has eight of them. -/
def bit (bits : UInt8) (i : Nat) : Except Crash Bool :=
  if i < 8 then .ok (bits.toNat.testBit i) else .error .overflow

theorem bind_of_ok {α β : Type} {m : Except Crash α} {a : α} (h : m = .ok a)
    (f : α → Except Crash β) : (m >>= f) = f a := by
  rw [h]
  rfl

theorem fit_of_bounds {bounded : Bool} {n : Int}
    (h : bounded = true → -9223372036854775808 ≤ n ∧ n ≤ 9223372036854775807) :
    fit bounded n = .ok n :=
  if_neg fun hn => hn.2 (h hn.1)

theorem entry_eq_get {α : Type} {xs : List α} {i : Nat} (h : i < xs.length) :
    entry xs i = .ok xs[i] := by
  rw [entry, List.getElem?_eq_getElem h]

/-- Where no element fails a check, all are mapped. -/
theorem mapM_of_ok {α β : Type} {f : α → Except Crash β} {g : α → β} {xs : List α}
    (h : ∀ a ∈ xs, f a = .ok (g a)) : xs.mapM f = .ok (xs.map g) := by
  induction xs with
  | nil => rfl
  | cons a rest ih =>
    rw [List.mapM_cons, h a List.mem_cons_self, ih fun b hb => h b (List.mem_cons_of_mem _ hb)]
    rfl

/-! ## Pictures -/

/-- The picture of a character. -/
def glyph (c : Char) : Except Crash Glyph :=
  if Glyph.firstPrintable ≤ c.toNat ∧ c.toNat ≤ Glyph.lastPrintable then do
    entry Glyph.table.toList (← difference c.toNat Glyph.firstPrintable)
  else entry Glyph.table.toList 0

/-- Whether the dot of a column and a row is lit. -/
def isLit (g : Glyph) (column row : Nat) : Except Crash Bool := do
  bit (← entry g.toList column) row

/-- The picture of a character is found without a failing check: only a printable one is looked up
    by its code. -/
theorem glyph_eq (c : Char) : glyph c = .ok (Glyph.ofChar c) := by
  rw [glyph, Glyph.ofChar]
  split
  next h =>
    have hplace : c.toNat - Glyph.firstPrintable < Glyph.table.toList.length := by
      simp only [Glyph.firstPrintable, Glyph.lastPrintable, Vector.length_toList] at h ⊢
      omega
    rw [difference, if_pos h.1]
    exact entry_eq_get hplace
  next => rfl

/-- A row of the display is a bit of a column, so asking for it does not fail. -/
theorem isLit_eq (g : Glyph) (column : Fin 5) {row : Nat} (h : row < displaySize) :
    isLit g column row = .ok (g.isLit column row) := by
  have hrow : row < 8 := Nat.lt_trans h (by decide)
  rw [isLit, entry_eq_get (by rw [Vector.length_toList]; exact column.isLt)]
  exact if_pos hrow

/-! ## Strokes -/

/-- The rows whose dots are lit in a column. -/
def litRows (g : Glyph) (column : Nat) : Except Crash (List Nat) := do
  let rows ← (List.range displaySize).mapM fun y => do return (y, ← isLit g column y)
  return (rows.filter (·.2)).map (·.1)

theorem litRows_eq (g : Glyph) (column : Fin 5) :
    litRows g column = .ok ((List.range displaySize).filter (g.isLit column)) := by
  have hrows : (List.range displaySize).mapM (fun y => do return (y, ← isLit g column y)) =
      (.ok ((List.range displaySize).map fun y => (y, g.isLit column y)) : Except Crash _) := by
    refine mapM_of_ok fun y hy => ?_
    rw [isLit_eq g column (List.mem_range.1 hy)]
    rfl
  rw [litRows, hrows]
  change Except.ok _ = _
  rw [List.filter_map, List.map_map]
  exact congrArg _ (List.map_id _)

/-- The strokes of a column of the display that shows a position. -/
def strokesAt (text : List Char) (position : Int) (x : Nat) : Except Crash (List Stroke) := do
  if position < 0 then return []
  let column ← remainder position Scroll.cellWidth
  if column = displaySize then return []
  let place ← quotient position Scroll.cellWidth
  let g ← glyph (text.getD place.toNat ' ')
  let rows ← litRows g column.toNat
  return rows.map fun y => .plot x y maxBrightness

/-- To the left of a text there is nothing to check. -/
theorem strokesAt_of_neg (text : List Char) {position : Int} (h : position < 0) (x : Nat) :
    strokesAt text position x = .ok [] := by
  rw [strokesAt, if_pos h]
  rfl

/-- At a place on the strip the checked drawing of a column is the drawing of the column. -/
theorem strokesAt_eq (text : List Char) (p x : Nat) :
    strokesAt text p x = .ok (Scroll.column x (Scroll.strip text p)) := by
  have hremainder : remainder p Scroll.cellWidth = .ok ((p % Scroll.cellWidth : Nat) : Int) := rfl
  have hquotient : quotient p Scroll.cellWidth = .ok ((p / Scroll.cellWidth : Nat) : Int) := rfl
  rw [strokesAt, if_neg (by omega), bind_of_ok hremainder, Scroll.strip]
  split
  next hcolumn =>
    -- The column between two pictures has no dots.
    rw [dif_neg (by simp only [displaySize] at hcolumn; omega)]
    rfl
  next hcolumn =>
    have hpicture : p % Scroll.cellWidth < 5 := by
      simp only [displaySize, Scroll.cellWidth] at hcolumn ⊢
      omega
    have hrows := litRows_eq (Glyph.ofChar (text.getD (p / Scroll.cellWidth) ' '))
      ⟨p % Scroll.cellWidth, hpicture⟩
    rw [dif_pos hpicture, bind_of_ok hquotient, bind_of_ok (glyph_eq _), Int.toNat_natCast,
      Int.toNat_natCast, bind_of_ok hrows]
    rfl

section Film

variable (bounded : Bool) (text : List Char) (ms : UInt64)

/-- The strokes of the frame that begins at a position. -/
def frame (offset : Int) : Except Crash (List Stroke) := do
  let columns ← (List.range displaySize).mapM fun (x : Nat) => do
    strokesAt text (← fit bounded (offset + (x : Int))) x
  return .clear :: columns.flatten ++ [.pause ms]

/-- The strokes of the whole animation, whose frames are counted. -/
def film : Except Crash (List Stroke) := do
  let start ← fit bounded (-displaySize)
  let length ← fit bounded text.length
  let stop ← fit bounded (length * Scroll.cellWidth)
  let offsets := (List.range (stop - start).toNat).map fun (k : Nat) => start + (k : Int)
  let frames ← offsets.mapM (frame bounded text ms)
  let _ ← fit bounded frames.length
  return frames.flatten ++ [.clear, .pause ms]

end Film

variable {bounded : Bool} {text : List Char}

/-- Where the number of the frame fits into 64 bits, no check of the frame fails. -/
theorem frame_eq {k : Nat} (hk : bounded = true → k < 9223372036854775808) (ms : UInt64) :
    frame bounded text ms (-displaySize + (k : Int)) = .ok (Scroll.frame text ms k) := by
  have hcolumns : (List.range displaySize).mapM (fun (x : Nat) => do
      strokesAt text (← fit bounded (-displaySize + (k : Int) + (x : Int))) x) =
      .ok ((List.range displaySize).map fun x => if k + x < displaySize then []
        else Scroll.column x (Scroll.strip text (k + x - displaySize))) := by
    refine mapM_of_ok fun x hx => ?_
    rw [List.mem_range] at hx
    have hsize : displaySize = 5 := rfl
    rw [bind_of_ok (fit_of_bounds fun hb => by have := hk hb; omega)]
    by_cases hleft : k + x < displaySize
    · rw [if_pos hleft]
      exact strokesAt_of_neg text (by omega) x
    · rw [if_neg hleft]
      have hposition : -(displaySize : Int) + (k : Int) + (x : Int) =
          ((k + x - displaySize : Nat) : Int) := by omega
      rw [hposition]
      exact strokesAt_eq text _ x
  rw [frame, hcolumns, Scroll.frame, Scroll.dots, List.flatMap_def]
  rfl

/-- Drawing with checks is drawing. -/
theorem film_eq (h : bounded = true → text.length < checkedLength) (ms : UInt64) :
    film bounded text ms = .ok (Scroll.film text ms) := by
  -- All numbers lie between the left end of the strip and the number of its frames.
  have hfit : ∀ n : Int, -5 ≤ n → n ≤ 5 + 6 * (text.length : Int) → fit bounded n = .ok n := by
    intro n hlow hhigh
    refine fit_of_bounds fun hb => ?_
    have := h hb
    simp only [checkedLength] at this
    omega
  have hlength : fit bounded text.length = .ok (text.length : Int) :=
    hfit _ (by omega) (by omega)
  have hstop : fit bounded ((text.length : Int) * Scroll.cellWidth) =
      .ok ((text.length : Int) * Scroll.cellWidth) := by
    refine hfit _ ?_ ?_ <;> (simp only [Scroll.cellWidth]; omega)
  have hcount : ((text.length : Int) * Scroll.cellWidth - -displaySize).toNat =
      displaySize + Scroll.cellWidth * text.length := by
    simp only [displaySize, Scroll.cellWidth]
    omega
  have hframes : ((List.range (displaySize + Scroll.cellWidth * text.length)).map
      fun (k : Nat) => -(displaySize : Int) + (k : Int)).mapM (frame bounded text ms) =
        .ok (Scroll.frames text ms) := by
    rw [List.mapM_map, Scroll.frames]
    refine mapM_of_ok fun k hk => frame_eq (fun hb => ?_) ms
    have := h hb
    simp only [checkedLength] at this
    simp only [List.mem_range, displaySize, Scroll.cellWidth] at hk
    omega
  have hcounted : fit bounded (Scroll.frames text ms).length =
      .ok ((Scroll.frames text ms).length : Int) := by
    refine hfit _ ?_ ?_ <;>
      (simp only [Scroll.frames, List.length_map, List.length_range, displaySize, Scroll.cellWidth]
       omega)
  rw [film, bind_of_ok (hfit _ (by decide) (by simp only [displaySize]; omega)),
    bind_of_ok hlength, bind_of_ok hstop]
  dsimp only
  rw [hcount, bind_of_ok hframes, bind_of_ok hcounted]
  rfl

/-! ## The display and the board -/

/-- The display after a command. -/
def apply (l : Leds) : Command → Except Crash Leds
  | .clearDisplay => .ok .blank
  | .setPixel x y brightness =>
    if x.toNat < displaySize ∧ y.toNat < displaySize then
      let i := displaySize * x.toNat + y.toNat
      if h : i < 25 then .ok ⟨l.cells.set i (min brightness maxBrightness)⟩
      else .error .indexOutOfRange
    else .ok l

/-- The place of a dot is within the cells, as its column and its row are within the display. -/
theorem apply_eq (l : Leds) (c : Command) : apply l c = .ok (l.apply c) := by
  cases c with
  | clearDisplay => rfl
  | setPixel x y brightness =>
    rw [apply, Leds.apply]
    by_cases hdot : x.toNat < 5 ∧ y.toNat < 5
    · have hcell : displaySize * x.toNat + y.toNat < 25 := by
        simp only [displaySize]
        omega
      rw [dif_pos hdot, if_pos (show x.toNat < displaySize ∧ y.toNat < displaySize from hdot)]
      exact dif_pos hcell
    · rw [dif_neg hdot]
      exact if_neg hdot

/-- An event happens. -/
def emit (h : Host) : Event → Except Crash Host
  | .command c => do return { h with leds := ← apply h.leds c, trace := h.trace.push (.command c) }
  | e => .ok (h.emit e)

/-- So no check fails when an event happens. -/
theorem emit_eq (h : Host) (e : Event) : emit h e = .ok (h.emit e) := by
  cases e with
  | command c =>
    rw [emit, bind_of_ok (apply_eq h.leds c)]
    rfl
  | _ => rfl

theorem emitAll_eq (h : Host) (events : List Event) :
    events.foldlM emit h = .ok (h.emitAll events) := by
  induction events generalizing h with
  | nil => rfl
  | cons e rest ih =>
    rw [List.foldlM_cons, bind_of_ok (emit_eq h e)]
    exact ih (h.emit e)

/-- Acts on the host, and may crash. -/
def act (f : Host → Except Crash Host) : Call Host Unit :=
  ExceptT.mk fun h => (f h).map fun h' => (.ok (), h')

/-- An act on the host whose checks never fail changes the host. -/
theorem act_eq {f : Host → Except Crash Host} {g : Host → Host}
    (h : ∀ host, f host = .ok (g host)) :
    act f = modify g := by
  funext host
  rw [act]
  change (f host).map _ = _
  rw [h host]
  rfl

/-- `set_pixel(x, y, brightness)` sets a dot. -/
def setPixel : Native Host := fun args => do
  checkArity 3 args
  let x ← intArg args 0
  let y ← intArg args 1
  let brightness ← intArg args 2
  match (← get).setPixel x y brightness with
  | .ok _ => act (emit · (.command (.dot x y brightness))); return .none
  | .error e => throw e

/-- `clear()` blanks the display. -/
def clearDisplay : Native Host := fun args => do
  checkArity 0 args
  act (emit · (.command .clearDisplay))
  return .none

/-- `scroll(text)` scrolls a text through the display. The numbers are checked if the text is
    shorter than `checkedLength`. -/
def scroll : Native Host := fun args => do
  checkArity 1 args
  let text ← strArg args 0
  act fun h => do
    let strokes ← film (text.toList.length < checkedLength) text.toList h.frameMs
    (strokes.map Stroke.event).foldlM emit h
  return .none

/-- The module of the display. -/
def display : Module Host :=
  ((Module.empty "display").function "set_pixel" setPixel
    |>.function "clear" clearDisplay
    |>.function "scroll" scroll)

/-- The function of the board that sets a dot fails no check. -/
theorem setPixel_eq : setPixel = Devices.setPixel := by
  have hset : ∀ x y brightness : Int64, (do
      match (← get).setPixel x y brightness with
      | .ok _ => act (emit · (.command (.dot x y brightness))); return .none
      | .error e => throw e : Call Host Value) = (do
      match (← get).setPixel x y brightness with
      | .ok h => set h; return .none
      | .error e => throw e) := by
    intro x y brightness
    rw [act_eq fun h => emit_eq h _]
    funext h
    change (match h.setPixel x y brightness with
        | .ok _ => (do modify (Host.emit · (.command (.dot x y brightness))); return .none :
            Call Host Value)
        | .error e => throw e).run h = (match h.setPixel x y brightness with
        | .ok h' => (do set h'; return .none : Call Host Value)
        | .error e => throw e).run h
    by_cases hdot : IsDot x y brightness
    · rw [h.setPixel_of_isDot hdot]
      rfl
    · obtain ⟨e, he⟩ := Host.setPixel_of_not_isDot hdot
      rw [he]
  funext args
  exact bind_congr fun _ => bind_congr fun x => bind_congr fun y => bind_congr fun brightness =>
    hset x y brightness

theorem clearDisplay_eq : clearDisplay = Devices.clearDisplay := by
  funext args
  simp only [clearDisplay, Devices.clearDisplay, act_eq fun h => emit_eq h _]
  rfl

/-- The checked function that scrolls a text is the one of the board too. -/
theorem scroll_eq : scroll = Devices.scroll := by
  have hscroll : ∀ (text : String) (h : Host), (do
      let strokes ← film (text.toList.length < checkedLength) text.toList h.frameMs
      (strokes.map Stroke.event).foldlM emit h) = .ok (h.scroll text).2 := by
    intro text h
    rw [bind_of_ok (film_eq of_decide_eq_true h.frameMs)]
    exact emitAll_eq h _
  funext args
  simp only [scroll, Devices.scroll, act_eq (hscroll _)]

/-- The module of the display with checks is the module of the display. -/
theorem display_eq : display = Devices.display := by
  rw [display, setPixel_eq, clearDisplay_eq, scroll_eq, Devices.display]

end LedBoard.Checked
