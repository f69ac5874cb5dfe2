import LedBoard.Proofs.Display.Led
import LedBoard.Proofs.Host.Trace
import Mathlib.Data.List.GetD

/-!
# What a scrolled text shows

The characters of a text stand side by side on a strip, each in a cell of six columns, of which
the last is blank (`Scroll.litAt`). Whatever was on the display before, a scrolled text moves a
window of five columns over its strip, one column a frame, from the one where the whole window
lies left of the text to the one where only the last blank column is left in it; then the
display is blank.

A frame blanks the display before it draws, so what it shows depends on its own strokes alone
(`screens_frame`), and these light the dots of the window (`plot_mem_dots`).

* `scroll_window`: the number of the frames, the pauses, and the display at each of them.
-/

namespace LedBoard.Scroll

/-- The dot of a position and a row of the strip of a text is lit: the position lies in the
    cell of a character, not in its last column, and the picture of the character has the dot. -/
def litAt (text : List Char) (p : Int) (y : Fin 5) : Bool :=
  if h : 0 ≤ p ∧ p < 6 * text.length ∧ p % 6 < 5 then
    (Glyph.ofChar (text.get ⟨(p / 6).toNat, by omega⟩)).isLit ⟨(p % 6).toNat, by omega⟩ y
  else false

/-! ## The strokes of a frame -/

/-- The strip has the dots of the characters at their places, with an empty column behind each. -/
theorem testBit_strip (text : List Char) (p : Nat) (y : Fin 5) :
    (strip text p).toNat.testBit y = litAt text p y := by
  by_cases hc : p % cellWidth < 5
  · have hc' : p % 6 < 5 := hc
    rw [strip, dif_pos hc]
    by_cases hp : p < 6 * text.length
    · rw [litAt, dif_pos (by omega), List.getD_eq_getElem _ _ (by simp only [cellWidth]; omega)]
      rfl
    · -- Beyond the text the strip is drawn as a space, which is blank.
      rw [litAt, dif_neg (by omega), List.getD_eq_default _ _ (by simp only [cellWidth]; omega)]
      have : ∀ (c : Fin 5) (y : Fin 5), ((Glyph.ofChar ' ').get c).toNat.testBit y = false := by
        decide
      exact this _ y
  · have hc' : ¬ p % 6 < 5 := hc
    rw [strip, dif_neg hc, litAt, dif_neg (by omega)]
    simp

/-- Every stroke of a frame on the blank display is a dot of the display, drawn at full
    brightness. -/
theorem exists_of_mem_dots {text : List Char} {k : Nat} {s : Stroke} (hs : s ∈ dots text k) :
    ∃ x y : Fin 5, s = .plot x y maxBrightness := by
  simp only [dots, List.mem_flatMap, List.mem_range] at hs
  obtain ⟨x, hx, hs⟩ := hs
  split at hs
  · exact absurd hs List.not_mem_nil
  · simp only [column, List.mem_map, List.mem_filter, List.mem_range] at hs
    obtain ⟨y, ⟨hy, -⟩, rfl⟩ := hs
    exact ⟨⟨x, hx⟩, ⟨y, hy⟩, rfl⟩

/-- The dots that the frame `k` draws are those that are lit in the window at `k` - 5. -/
theorem plot_mem_dots (text : List Char) (k : Nat) (x y : Fin 5) :
    .plot x y maxBrightness ∈ dots text k ↔ litAt text ((k : Int) - 5 + x) y = true := by
  simp only [dots, List.mem_flatMap, List.mem_range]
  constructor
  · rintro ⟨x', -, hs⟩
    split at hs
    · exact absurd hs List.not_mem_nil
    next hk =>
      have hk' : ¬ k + x' < 5 := hk
      simp only [column, List.mem_map, List.mem_filter, Stroke.plot.injEq] at hs
      obtain ⟨y', ⟨-, hy⟩, rfl, rfl, -⟩ := hs
      rw [testBit_strip] at hy
      rwa [show (k : Int) - 5 + x = ((k + x - 5 : Nat) : Int) by omega]
  · intro h
    -- Left of the text nothing is lit, so the position is one of the strip.
    have hk : ¬ k + x < displaySize := by
      intro (hk : k + x < 5)
      rw [litAt, dif_neg (by omega)] at h
      exact absurd h Bool.false_ne_true
    have hk' : ¬ k + x < 5 := hk
    refine ⟨x, x.2, ?_⟩
    rw [if_neg hk]
    refine List.mem_map.2 ⟨y, List.mem_filter.2 ⟨List.mem_range.2 y.2, ?_⟩, rfl⟩
    rw [testBit_strip]
    rwa [show (k : Int) - 5 + x = ((k + x - 5 : Nat) : Int) by omega] at h

/-! ## The display at the pauses -/

/-- Drawing dots at full brightness lights them and leaves the others. -/
theorem brightness_draw {strokes : List Stroke}
    (hs : ∀ s ∈ strokes, ∃ x y : Fin 5, s = .plot x y maxBrightness) (l : Leds) (x y : Fin 5) :
    ((strokes.map Stroke.event).foldl Event.onLeds l).brightness x y =
      if .plot x y maxBrightness ∈ strokes then maxBrightness else l.brightness x y := by
  induction strokes generalizing l with
  | nil => rfl
  | cons s rest ih =>
    obtain ⟨a, b, rfl⟩ := hs s List.mem_cons_self
    rw [List.map_cons, List.foldl_cons, ih fun s h => hs s (List.mem_cons_of_mem _ h)]
    simp only [Stroke.event, Event.onLeds, Leds.brightness_setPixel, List.mem_cons,
      Stroke.plot.injEq, UInt8.toNat_ofNat']
    have ha : a.val % 2 ^ 8 = a.val := Nat.mod_eq_of_lt (by omega)
    have hb : b.val % 2 ^ 8 = b.val := Nat.mod_eq_of_lt (by omega)
    rw [ha, hb]
    -- A dot that is drawn again later is as bright then, so the order does not matter.
    by_cases hm : .plot x y maxBrightness ∈ rest
    · rw [if_pos hm, if_pos (.inr hm)]
    · rw [if_neg hm]
      refine ite_congr (propext ⟨fun h => .inl ⟨h.1.symm, h.2.symm, trivial⟩, ?_⟩) (fun _ => rfl)
        fun _ => rfl
      rintro (h | h)
      · exact ⟨h.1.symm, h.2.1.symm⟩
      · exact absurd h hm

/-- The display that the frame `k` shows. -/
def canvas (text : List Char) (k : Nat) : Leds :=
  ((dots text k).map Stroke.event).foldl Event.onLeds .blank

theorem brightness_canvas (text : List Char) (k : Nat) (x y : Fin 5) :
    (canvas text k).brightness x y = if litAt text ((k : Int) - 5 + x) y then 9 else 0 := by
  rw [canvas, brightness_draw fun s hs => exists_of_mem_dots hs, Leds.brightness_blank]
  simp only [plot_mem_dots]
  rfl

theorem pauses_dots (text : List Char) (k : Nat) :
    Event.pauses ((dots text k).map Stroke.event) = [] := by
  simp only [Event.pauses, List.filterMap_map, List.filterMap_eq_nil_iff]
  intro s hs
  obtain ⟨x, y, rfl⟩ := exists_of_mem_dots hs
  rfl

theorem pauses_frame (text : List Char) (ms : UInt64) (k : Nat) :
    Event.pauses ((frame text ms k).map Stroke.event) = [ms] := by
  simp only [frame, List.map_append, List.map_cons, List.map_nil, List.cons_append]
  rw [← List.singleton_append, Event.pauses_append, Event.pauses_append, pauses_dots]
  rfl

/-- A frame shows its dots, whatever was on the display before. -/
theorem screens_frame (leds : Leds) (text : List Char) (ms : UInt64) (k : Nat) :
    Event.screens leds ((frame text ms k).map Stroke.event) = [canvas text k] := by
  have hdots : Event.screens .blank ((dots text k).map Stroke.event) = [] :=
    List.eq_nil_of_length_eq_zero (by rw [Event.length_screens, pauses_dots]; rfl)
  simp only [frame, List.map_append, List.map_cons, List.map_nil, List.cons_append, Stroke.event,
    Event.screens, Event.onLeds, Leds.apply, Event.screens_append, hdots, List.nil_append]
  rfl

/-- Frames one after the other show their dots one after the other. -/
theorem screens_frames (leds : Leds) (text : List Char) (ms : UInt64) (ks : List Nat) :
    Event.screens leds ((ks.map (frame text ms)).flatten.map Stroke.event) =
      ks.map (canvas text) := by
  induction ks generalizing leds with
  | nil => rfl
  | cons k ks ih =>
    rw [List.map_cons, List.flatten_cons, List.map_append, Event.screens_append, screens_frame, ih]
    rfl

theorem pauses_frames (text : List Char) (ms : UInt64) (ks : List Nat) :
    Event.pauses ((ks.map (frame text ms)).flatten.map Stroke.event) =
      List.replicate ks.length ms := by
  induction ks with
  | nil => rfl
  | cons k ks ih =>
    rw [List.map_cons, List.flatten_cons, List.map_append, Event.pauses_append, pauses_frame, ih]
    rfl

/-- The displays at the pauses of the whole animation. -/
theorem screens_film (leds : Leds) (text : List Char) (ms : UInt64) :
    Event.screens leds ((film text ms).map Stroke.event) =
      (List.range (5 + 6 * text.length)).map (canvas text) ++ [.blank] := by
  rw [film, frames, List.map_append, Event.screens_append, screens_frames]
  rfl

/-- An animation waits once for every frame, and once more at its end. -/
theorem pauses_film (text : List Char) (ms : UInt64) :
    Event.pauses ((film text ms).map Stroke.event) =
      List.replicate (6 + 6 * text.length) ms := by
  rw [film, frames, List.map_append, Event.pauses_append, pauses_frames, List.length_range]
  rw [show 6 + 6 * text.length = 5 + 6 * text.length + 1 by omega, List.replicate_succ']
  rfl

/-- Between two frames the window moves by one column. -/
theorem canvas_succ (text : List Char) (k : Nat) (x : Fin 4) (y : Fin 5) :
    (canvas text (k + 1)).brightness x.castSucc y = (canvas text k).brightness x.succ y := by
  rw [brightness_canvas, brightness_canvas]
  rw [show ((k + 1 : Nat) : Int) - 5 + (x.castSucc : Nat) = (k : Int) - 5 + (x.succ : Nat) by
    simp only [Fin.val_castSucc, Fin.val_succ]
    omega]

/-- Scrolling a text of L characters does nothing but drawing and waiting, shows 5 + 6 L frames
    and pauses once more, each time for the time of a frame. At the pause `k` the display is the
    window of the strip at `k` - 5, so that it moves by one column from frame to frame, and at
    the last pause it is blank. The display at a pause is the one that the host has when the
    pause happens. -/
theorem scroll_window (h : Host) (text : String) :
    ∃ events : List Event,
      (h.scroll text).2 = h.emitAll events ∧
      (h.scroll text).2.events = h.events ++ events ∧
      (h.scroll text).1 = 5 + 6 * text.length ∧
      Event.pauses events = List.replicate (6 + 6 * text.length) h.frameMs ∧
      (∀ k < 5 + 6 * text.length, ∃ l, (Event.screens h.leds events)[k]? = some l ∧
        ∀ x y : Fin 5,
          l.brightness x y = if litAt text.toList ((k : Int) - 5 + x) y then 9 else 0) ∧
      (∀ k l l', k + 1 < 5 + 6 * text.length → (Event.screens h.leds events)[k]? = some l →
        (Event.screens h.leds events)[k + 1]? = some l' →
        ∀ (x : Fin 4) (y : Fin 5), l'.brightness x.castSucc y = l.brightness x.succ y) ∧
      (Event.screens h.leds events)[5 + 6 * text.length]? = some .blank ∧
      ∀ before ms after, events = before ++ .pause ms :: after →
        (Event.screens h.leds events)[(Event.pauses before).length]? =
          some (h.emitAll before).leds := by
  have hscreens := screens_film h.leds text.toList h.frameMs
  rw [String.length_toList] at hscreens
  -- The pause `k` before the last one shows the frame `k`.
  have hframe : ∀ k < 5 + 6 * text.length,
      (Event.screens h.leds ((film text.toList h.frameMs).map Stroke.event))[k]? =
        some (canvas text.toList k) := by
    intro k hk
    rw [hscreens, List.getElem?_append_left (by simpa using hk), List.getElem?_map,
      List.getElem?_range hk]
    rfl
  refine ⟨(film text.toList h.frameMs).map Stroke.event, rfl, ?_, ?_, ?_, ?_, ?_, ?_, ?_⟩
  · exact h.emitAll_events _
  · simp [Host.scroll, frames, displaySize, cellWidth, String.length_toList]
  · rw [pauses_film, String.length_toList]
  · intro k hk
    exact ⟨_, hframe k hk, brightness_canvas _ _⟩
  · intro k l l' hk hl hl'
    rw [hframe k (by omega), Option.some.injEq] at hl
    rw [hframe (k + 1) hk, Option.some.injEq] at hl'
    subst hl hl'
    exact canvas_succ _ _
  · rw [hscreens, List.getElem?_append_right (by simp)]
    simp
  · exact fun before ms after he => h.screens_split he

end LedBoard.Scroll
