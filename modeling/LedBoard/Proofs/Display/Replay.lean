import LedBoard.Proofs.Display.Range

/-!
# The display as its commands left it

Of the commands that a display was sent, two kinds have a say in a dot: those that set this very
dot, and those that blank all dots (`Command.Touches`). The last of them decides: if it sets the
dot, the dot has the brightness it asks for, up to nine, and otherwise the dot is off. Commands
for dots beyond the display have no say in any.

The display as text has a line for every row, and the signs of the dots tell their brightness. So
displays are told apart by their text, and a display is blank if there is no digit in it.

* `exists_last_touch`, `brightness_replay_of_untouched`: the last command that has a say in a dot,
  and the commands that have none;
* `lines_render`: the display as text, line by line;
* `replay_shown`: the dots and the text of a display after any commands.
-/

namespace LedBoard

namespace Command

/-- The command asks for a brightness of the dot of a column and a row. -/
def Sets (x y : Fin 5) (v : UInt8) (c : Command) : Prop :=
  ∃ a b : UInt8, c = .setPixel a b v ∧ a.toNat = x ∧ b.toNat = y

/-- The command has a say in the dot of a column and a row. -/
def Touches (x y : Fin 5) (c : Command) : Prop :=
  c = .clearDisplay ∨ ∃ v, c.Sets x y v

/-- The last of the commands that have a say in a dot asks for this brightness of it. -/
def LastSet (x y : Fin 5) (v : UInt8) (cs : List Command) : Prop :=
  ∃ before c after, cs = before ++ c :: after ∧ c.Sets x y v ∧ ∀ d ∈ after, ¬ d.Touches x y

/-- Every command that asks for a brightness of a dot is followed by one that blanks all dots. -/
def Unset (x y : Fin 5) (cs : List Command) : Prop :=
  ∀ before c after v, cs = before ++ c :: after → c.Sets x y v → .clearDisplay ∈ after

/-- Either no command has a say in a dot, or one of them is the last. -/
theorem exists_last_touch (x y : Fin 5) (cs : List Command) :
    (∀ c ∈ cs, ¬ c.Touches x y) ∨
      ∃ before c after, cs = before ++ c :: after ∧ c.Touches x y ∧
        ∀ d ∈ after, ¬ d.Touches x y := by
  induction cs with
  | nil => exact .inl fun c hc => absurd hc List.not_mem_nil
  | cons c rest ih =>
    rcases ih with hnone | ⟨before, d, after, rfl, hd, hafter⟩
    · by_cases hc : c.Touches x y
      · exact .inr ⟨[], c, rest, rfl, hc, hnone⟩
      · exact .inl (List.forall_mem_cons.2 ⟨hc, hnone⟩)
    · exact .inr ⟨c :: before, d, after, rfl, hd, hafter⟩

/-- A dot is set last, or it is not set since all dots were blanked. -/
theorem lastSet_or_unset (x y : Fin 5) (cs : List Command) :
    (∃ v, LastSet x y v cs) ∨ Unset x y cs := by
  rcases exists_last_touch x y cs with hnone | ⟨before, c, after, rfl, hc | ⟨v, hc⟩, hafter⟩
  · refine .inr fun before c after v hcs hc => ?_
    have hmem : c ∈ cs := hcs ▸ List.mem_append_right before List.mem_cons_self
    exact absurd (.inr ⟨v, hc⟩) (hnone c hmem)
  · -- One of the two commands is not behind the other, and it is the one that sets the dot.
    refine .inr fun before' c' after' v hcs hc' => ?_
    have hne : c' ≠ .clearDisplay := by
      obtain ⟨a, b, rfl, -⟩ := hc'
      simp
    have hblank : (c :: after) <:+ (before ++ c :: after) := List.suffix_append _ _
    have hset : (c' :: after') <:+ (before ++ c :: after) := hcs ▸ List.suffix_append _ _
    rcases List.suffix_or_suffix_of_suffix hset hblank with h | h
    · rcases List.mem_cons.1 (h.subset List.mem_cons_self) with heq | hmem
      · exact absurd (heq.trans hc) hne
      · exact absurd (.inr ⟨v, hc'⟩) (hafter c' hmem)
    · exact List.mem_of_ne_of_mem hne.symm (hc ▸ h.subset List.mem_cons_self)
  · exact .inl ⟨v, before, c, after, rfl, hc, hafter⟩

end Command

namespace Leds

open Command

/-! ## Dots -/

/-- Commands that have no say in a dot leave it. -/
theorem brightness_replay_of_untouched {l : Leds} {x y : Fin 5} {cs : List Command}
    (h : ∀ c ∈ cs, ¬ c.Touches x y) : (l.replay cs).brightness x y = l.brightness x y := by
  induction cs generalizing l with
  | nil => rfl
  | cons c rest ih =>
    obtain ⟨hc, hrest⟩ := List.forall_mem_cons.1 h
    rw [replay, List.foldl_cons, ← replay, ih hrest]
    cases c with
    | clearDisplay => exact absurd (.inl rfl) hc
    | setPixel a b v =>
      rw [brightness_setPixel, if_neg]
      rintro ⟨ha, hb⟩
      exact hc (.inr ⟨v, a, b, rfl, ha, hb⟩)

theorem replay_append_cons (l : Leds) (before after : List Command) (c : Command) :
    l.replay (before ++ c :: after) = ((l.replay before).apply c).replay after := by
  rw [replay, List.foldl_append, List.foldl_cons]
  rfl

/-- A dot has the brightness that the last command asks for that has a say in it. -/
theorem brightness_replay_of_lastSet {l : Leds} {x y : Fin 5} {v : UInt8} {cs : List Command}
    (h : LastSet x y v cs) : (l.replay cs).brightness x y = min v 9 := by
  obtain ⟨before, c, after, rfl, ⟨a, b, rfl, hdot⟩, hafter⟩ := h
  rw [replay_append_cons, brightness_replay_of_untouched hafter, brightness_setPixel,
    if_pos hdot]
  rfl

/-- A dot that is not set since all dots were blanked is off. -/
theorem brightness_replay_of_unset {x y : Fin 5} {cs : List Command} (h : Unset x y cs) :
    (blank.replay cs).brightness x y = 0 := by
  rcases exists_last_touch x y cs with hnone | ⟨before, c, after, rfl, rfl | ⟨v, hc⟩, hafter⟩
  · rw [brightness_replay_of_untouched hnone, brightness_blank]
  · rw [replay_append_cons, brightness_replay_of_untouched hafter]
    exact brightness_blank x y
  · exact absurd (.inl rfl) (hafter _ (h before c after v rfl hc))

/-- A command for a dot that there is not does nothing. -/
theorem apply_of_beyond (l : Leds) {a b : UInt8} (h : 5 ≤ a.toNat ∨ 5 ≤ b.toNat) (v : UInt8) :
    l.apply (.setPixel a b v) = l :=
  dif_neg (by omega)

/-! ## Lines of text -/

/-- The signs of a row. -/
def row (l : Leds) (y : Fin 5) : List Char :=
  (List.finRange 5).map fun x =>
    if l.brightness x y = 0 then '.' else Nat.digitChar (l.brightness x y).toNat

/-- The sign of a dot is a point or its digit. -/
theorem sign_eq {v : UInt8} (hv : v ≤ 9) :
    sign v = if v = 0 then '.' else Nat.digitChar v.toNat :=
  forall_le_nine (P := fun v => sign v = if v = 0 then '.' else Nat.digitChar v.toNat)
    (by decide) v hv

/-- The sign of a dot is a digit if the dot is lit. -/
theorem isDigit_sign {v : UInt8} (hv : v ≤ 9) : (sign v).isDigit = false ↔ v = 0 :=
  forall_le_nine (P := fun v => (sign v).isDigit = false ↔ v = 0) (by decide) v hv

/-- The sign of a dot tells its brightness. -/
theorem sign_inj {v w : UInt8} (hv : v ≤ 9) (hw : w ≤ 9) (h : sign v = sign w) : v = w :=
  forall_le_nine (P := fun v => ∀ w, w ≤ 9 → sign v = sign w → v = w)
    (fun n => forall_le_nine (by revert n; decide)) v hv w hw h

variable {l m : Leds}

theorem row_eq (hl : ∀ x y, l.brightness x y ≤ 9) (y : Fin 5) :
    l.row y = (List.finRange 5).map fun x => sign (l.brightness x y) :=
  List.map_congr_left fun x _ => (sign_eq (hl x y)).symm

theorem newline_not_mem_row (hl : ∀ x y, l.brightness x y ≤ 9) (y : Fin 5) : '\n' ∉ l.row y := by
  rw [row_eq hl]
  intro h
  obtain ⟨x, -, hx⟩ := List.mem_map.1 h
  rcases sign_of_le (hl x y) with hsign | ⟨hlow, -⟩
  · rw [hsign] at hx
    exact absurd hx (by decide)
  · rw [hx] at hlow
    exact absurd hlow (by decide)

theorem render_eq (hl : ∀ x y, l.brightness x y ≤ 9) :
    l.render.toList = (List.finRange 5).flatMap fun y => l.row y ++ ['\n'] := by
  rw [render, String.toList_ofList]
  simp only [row_eq hl]

/-- The text of a display has a line for every row, and ends behind the last one. -/
theorem lines_render (hl : ∀ x y, l.brightness x y ≤ 9) :
    l.render.toList.splitOn '\n' = (List.finRange 5).map l.row ++ [[]] := by
  have hsplit : ∀ ys : List (Fin 5),
      (ys.flatMap fun y => l.row y ++ ['\n']).splitOn '\n' = ys.map l.row ++ [[]] := by
    intro ys
    induction ys with
    | nil => rfl
    | cons y rest ih =>
      rw [List.flatMap_cons, List.append_assoc, List.singleton_append, List.splitOn_eq_splitOnP,
        List.splitOnP_append_cons_of_forall_mem, ← List.splitOn_eq_splitOnP, ih]
      · rfl
      · intro c hc
        rw [beq_eq_false_iff_ne]
        rintro rfl
        exact newline_not_mem_row hl y hc
      · rfl
  rw [render_eq hl, hsplit]

/-- The text tells every dot. -/
theorem render_inj (hl : ∀ x y, l.brightness x y ≤ 9) (hm : ∀ x y, m.brightness x y ≤ 9) :
    l.render = m.render ↔ ∀ x y, l.brightness x y = m.brightness x y := by
  constructor
  · intro h x y
    have hlines := lines_render hl
    rw [h, lines_render hm, List.append_cancel_right_eq] at hlines
    have hrow : m.row y = l.row y := List.map_inj_left.1 hlines y (List.mem_finRange y)
    rw [row_eq hl, row_eq hm, List.map_inj_left] at hrow
    exact sign_inj (hl x y) (hm x y) (hrow x (List.mem_finRange x)).symm
  · intro h
    rw [eq_of_brightness h]

theorem isBlank_iff : l.isBlank = true ↔ ∀ x y, l.brightness x y = 0 := by
  constructor
  · intro h x y
    have hcell := Vector.all_eq_true.1 h (index x y) (index x y).isLt
    exact eq_of_beq hcell
  · intro h
    rw [eq_of_brightness fun x y => (h x y).trans (brightness_blank x y).symm]
    exact Vector.all_eq_true.2 fun i hi => by rw [blank, Vector.getElem_replicate]; rfl

/-- A display is blank if there is no digit in its text. -/
theorem isBlank_iff_render (hl : ∀ x y, l.brightness x y ≤ 9) :
    l.isBlank = true ↔ ∀ c ∈ l.render.toList, c.isDigit = false := by
  rw [isBlank_iff]
  simp only [render_eq hl, row_eq hl, List.mem_flatMap, List.mem_append, List.mem_map,
    List.mem_singleton, List.mem_finRange, true_and]
  constructor
  · rintro h c ⟨y, ⟨x, rfl⟩ | rfl⟩
    · exact (isDigit_sign (hl x y)).2 (h x y)
    · rfl
  · intro h x y
    exact (isDigit_sign (hl x y)).1 (h _ ⟨y, .inl ⟨x, rfl⟩⟩)

/-- After any commands, every dot has the brightness that the last of the commands asks for that
    has a say in it, up to nine, or is off if that one blanks the display or if there is none; a
    command for a dot beyond the display changes no dot of any display. The text of the display
    has a line for every row, with a point for every dot that is off and the digit of its
    brightness for every other one. So it is the same text after two sequences of commands
    exactly if all dots are the same, and it has no digit exactly if the display is blank. -/
theorem replay_shown (cs : List Command) :
    (∀ x y : Fin 5,
      ((∃ v, LastSet x y v cs) ∨ Unset x y cs) ∧
      (∀ v, LastSet x y v cs → (blank.replay cs).brightness x y = min v 9) ∧
      (Unset x y cs → (blank.replay cs).brightness x y = 0)) ∧
    (∀ (l : Leds) (a b v : UInt8), 5 ≤ a.toNat ∨ 5 ≤ b.toNat → l.apply (.setPixel a b v) = l) ∧
    (blank.replay cs).render.toList.splitOn '\n' =
      ((List.finRange 5).map fun y => (List.finRange 5).map fun x =>
        if (blank.replay cs).brightness x y = 0 then '.'
        else Nat.digitChar ((blank.replay cs).brightness x y).toNat) ++ [[]] ∧
    (∀ ds, (blank.replay cs).render = (blank.replay ds).render ↔
      ∀ x y, (blank.replay cs).brightness x y = (blank.replay ds).brightness x y) ∧
    ((blank.replay cs).isBlank = true ↔
      ∀ c ∈ (blank.replay cs).render.toList, c.isDigit = false) := by
  have hle : ∀ ds x y, (blank.replay ds).brightness x y ≤ 9 := fun ds =>
    brightness_replay (fun x y => by rw [brightness_blank]; decide) ds
  exact ⟨fun x y => ⟨lastSet_or_unset x y cs, fun v => brightness_replay_of_lastSet,
      brightness_replay_of_unset⟩, fun l a b v h => l.apply_of_beyond h v, lines_render (hle cs),
    fun ds => render_inj (hle cs) (hle ds), isBlank_iff_render (hle cs)⟩

end Leds

end LedBoard
