import LedBoard.Display.Led

/-!
# The display after commands

A command changes at most one dot, or blanks them all, so the display is known dot by dot.

* `brightness_setPixel`: a dot after a command that sets one;
* `eq_of_brightness`: two displays with the same dots are the same.
-/

namespace LedBoard.Leds

/-- Every dot has a cell of its own. -/
theorem index_inj {x y x' y' : Fin 5} : index x y = index x' y' ↔ x = x' ∧ y = y' := by
  simp only [index, Fin.ext_iff]
  omega

@[simp]
theorem brightness_blank (x y : Fin 5) : blank.brightness x y = 0 := by
  simp [brightness, blank]

/-- A command that sets a dot sets that dot, no brighter than nine, and no other. -/
theorem brightness_setPixel (l : Leds) (a b v : UInt8) (x y : Fin 5) :
    (l.apply (.setPixel a b v)).brightness x y =
      if a.toNat = x ∧ b.toNat = y then min v maxBrightness else l.brightness x y := by
  by_cases h : a.toNat < 5 ∧ b.toNat < 5
  · rw [apply, dif_pos h, brightness, Fin.getElem_fin, Vector.getElem_set]
    simp only [← Fin.ext_iff, index_inj]
    simp only [Fin.ext_iff]
    rfl
  · rw [apply, dif_neg h, if_neg]
    -- The dot of the command lies beyond the display, unlike `x` and `y`.
    omega

/-- A display is known by its dots. -/
theorem eq_of_brightness {l m : Leds} (h : ∀ x y, l.brightness x y = m.brightness x y) :
    l = m := by
  obtain ⟨l⟩ := l
  obtain ⟨m⟩ := m
  congr
  refine Vector.ext fun i hi => ?_
  have hdot := h ⟨i / 5, by omega⟩ ⟨i % 5, by omega⟩
  simpa only [brightness, index, Fin.getElem_fin, Nat.div_add_mod] using hdot

end LedBoard.Leds
