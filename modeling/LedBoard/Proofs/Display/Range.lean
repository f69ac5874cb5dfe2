import LedBoard.Proofs.Display.Scroll

/-!
# Commands within the display

A command is in range if it sets a dot that there is, no brighter than the display can show. The
animation of a text draws in range of itself, and after any commands at all the display shows a
point or a digit from one to nine at every place.

* `Command.InRange`, `Scroll.film_inRange`: the commands in range, and those of an animation;
* `Leds.brightness_replay`: no dot is brighter than nine after any commands;
* `Leds.exists_rows`: the rows of a display none of whose dots is.
-/

namespace LedBoard

/-- A command that sets a dot within the display, with a brightness that it can show. -/
def Command.InRange : Command → Prop
  | .setPixel x y brightness => x ≤ 4 ∧ y ≤ 4 ∧ brightness ≤ 9
  | .clearDisplay => True

namespace Scroll

/-- The strokes of an animation blank the display, draw its dots at full brightness, and hold. -/
theorem exists_of_mem_film {text : List Char} {ms : UInt64} {s : Stroke} (hs : s ∈ film text ms) :
    s = .clear ∨ s = .pause ms ∨ ∃ x y : Fin 5, s = .plot x y maxBrightness := by
  rw [film, List.mem_append] at hs
  rcases hs with hs | hs
  · simp only [frames, List.mem_flatten, List.mem_map] at hs
    obtain ⟨_, ⟨k, -, rfl⟩, hs⟩ := hs
    rw [frame, List.cons_append, List.mem_cons, List.mem_append, List.mem_singleton] at hs
    rcases hs with hs | hs | hs
    · exact .inl hs
    · exact .inr (.inr (exists_of_mem_dots hs))
    · exact .inr (.inl hs)
  · rw [List.mem_cons, List.mem_singleton] at hs
    exact hs.imp id .inl

/-- So the commands of any part of an animation are in range. -/
theorem inRange_of_film {text : List Char} {ms : UInt64} {strokes : List Stroke}
    (hstrokes : ∀ s ∈ strokes, s ∈ film text ms) {c : Command}
    (hc : c ∈ Event.commands (strokes.map Stroke.event)) : c.InRange := by
  simp only [Event.commands, List.mem_filterMap, List.mem_map] at hc
  obtain ⟨_, ⟨s, hs, rfl⟩, hc⟩ := hc
  rcases exists_of_mem_film (hstrokes s hs) with rfl | rfl | ⟨x, y, rfl⟩
  · cases hc
    exact trivial
  · cases hc
  · cases hc
    have hle : ∀ z : Fin 5, UInt8.ofNat z ≤ 4 := by decide
    exact ⟨hle x, hle y, UInt8.le_refl 9⟩

end Scroll

namespace Leds

theorem min_le (v : UInt8) : min v maxBrightness ≤ 9 := by
  change (if v ≤ maxBrightness then v else maxBrightness) ≤ 9
  split
  next hv => exact hv
  next => exact UInt8.le_refl 9

/-- No dot is brighter than nine after any commands, if none was before. -/
theorem brightness_replay {l : Leds} (hl : ∀ x y, l.brightness x y ≤ 9) (cs : List Command)
    (x y : Fin 5) : (l.replay cs).brightness x y ≤ 9 := by
  induction cs generalizing l with
  | nil => exact hl x y
  | cons c rest ih =>
    refine ih fun x y => ?_
    cases c with
    | clearDisplay =>
      rw [apply, brightness_blank]
      decide
    | setPixel a b v =>
      rw [brightness_setPixel]
      split
      · exact min_le v
      · exact hl x y

/-- What is true of the ten brightnesses that a dot can have. -/
theorem forall_le_nine {P : UInt8 → Prop} (h : ∀ n : Fin 10, P (.ofNat n)) :
    ∀ v : UInt8, v ≤ 9 → P v := by
  intro v hv
  have hlt : v.toNat < 10 := Nat.lt_succ_of_le (UInt8.le_iff_toNat_le.1 hv)
  have hv' := h ⟨v.toNat, hlt⟩
  rwa [UInt8.ofNat_toNat] at hv'

/-- Up to nine, a brightness is shown by a point or by a digit that is not zero. -/
theorem sign_of_le {v : UInt8} (hv : v ≤ 9) : sign v = '.' ∨ '1' ≤ sign v ∧ sign v ≤ '9' :=
  forall_le_nine (P := fun v => sign v = '.' ∨ '1' ≤ sign v ∧ sign v ≤ '9') (by decide) v hv

/-- The display as text: five rows of five signs, each a point or a digit from one to nine, and
    each with the end of a line behind it. -/
theorem exists_rows {l : Leds} (hl : ∀ x y, l.brightness x y ≤ 9) :
    ∃ rows : List (List Char), l.render = .ofList (rows.flatMap (· ++ ['\n'])) ∧
      rows.length = 5 ∧ ∀ row ∈ rows, row.length = 5 ∧ ∀ c ∈ row, c = '.' ∨ '1' ≤ c ∧ c ≤ '9' := by
  refine ⟨(List.finRange 5).map fun y => (List.finRange 5).map fun x => sign (l.brightness x y),
    ?_, ?_, ?_⟩
  · rw [render, List.flatMap_map]
  · rw [List.length_map, List.length_finRange]
  · intro row hrow
    obtain ⟨y, -, rfl⟩ := List.mem_map.1 hrow
    refine ⟨by rw [List.length_map, List.length_finRange], fun c hc => ?_⟩
    obtain ⟨x, -, rfl⟩ := List.mem_map.1 hc
    exact sign_of_le (hl x y)

end Leds

end LedBoard
