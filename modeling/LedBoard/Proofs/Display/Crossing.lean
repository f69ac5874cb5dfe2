import LedBoard.Proofs.Display.Scroll
import LedBoard.Proofs.Host.Commands
import Mathlib.Data.List.Nodup
import Mathlib.Data.List.FinRange

/-!
# How dots cross the display

The window that a scrolled text is seen through moves by one column a frame, and it is five
columns wide. So a lit dot of a picture comes in at the right edge of the display, is drawn in
five frames, each time one column further left, and goes out at the left edge. Since the window
starts left of the text and ends behind it, this holds of every dot, those of the first and of the
last character included.

A dot that is drawn is put down with the number of its frame (`Drawn`). The frame `k` draws the
dots that are lit in its window (`drawn_film`), and there the position `p` of the strip is at the
column `x` with `k` + `x` = `p` + 5. So the dots drawn fall into classes, one for every lit dot of
the text, and each class has five of them (`filter_drawn_film`), which gives their number.

* `crossing`: what is drawn of a dot that is lit;
* `length_eq_of_classes`: a list that falls into classes of the same size;
* `dots_cross`: what is drawn of every dot, how many dots are drawn, and how many of two texts.
-/

namespace LedBoard

/-- The dots of a picture that are lit, by column and row. -/
def Glyph.litDots (g : Glyph) : List (Fin 5 × Fin 5) :=
  ((List.finRange 5).product (List.finRange 5)).filter fun (c, y) => g.isLit c y

namespace Scroll

/-- How many dots are lit in the pictures of a text. -/
def ink (text : List Char) : Nat := (text.flatMap fun c => (Glyph.ofChar c).litDots).length

theorem ink_append (a b : List Char) : ink (a ++ b) = ink a + ink b := by
  rw [ink, List.flatMap_append, List.length_append]
  rfl

/-! ## The dots drawn -/

/-- A dot that is drawn: its frame, its place on the display, and its brightness. -/
structure Drawn where
  frame : Nat
  x : Nat
  y : Nat
  brightness : UInt8
  deriving DecidableEq, Repr

/-- The dots that strokes draw, of which the first belong to the frame `k`: a pause ends a frame. -/
def drawn (k : Nat) : List Stroke → List Drawn
  | [] => []
  | .clear :: rest => drawn k rest
  | .plot x y brightness :: rest => ⟨k, x, y, brightness⟩ :: drawn k rest
  | .pause _ :: rest => drawn (k + 1) rest

/-- The dot is drawn for the position `p` of the strip, in the row `y`. -/
def Drawn.shows (p y : Nat) (d : Drawn) : Bool := d.frame + d.x == p + 5 && d.y == y

/-- What is drawn of a lit dot of the strip: it is in five frames, from the right to the left. -/
def crossing (p y : Nat) : List Drawn :=
  [⟨p + 1, 4, y, 9⟩, ⟨p + 2, 3, y, 9⟩, ⟨p + 3, 2, y, 9⟩, ⟨p + 4, 1, y, 9⟩, ⟨p + 5, 0, y, 9⟩]

/-- The lit dots of a column of the window at `k` - 5. -/
def windowColumn (text : List Char) (k : Nat) (x : Fin 5) : List Drawn :=
  ((List.finRange 5).filter (litAt text ((k : Int) - 5 + x))).map fun y : Fin 5 => ⟨k, x, y, 9⟩

/-- The lit dots of the window at `k` - 5. -/
def window (text : List Char) (k : Nat) : List Drawn :=
  (List.finRange 5).flatMap (windowColumn text k)

/-- What the frame `k` has of a lit dot of the strip. -/
def passing (p y k : Nat) : List Drawn :=
  (List.finRange 5).flatMap fun x : Fin 5 => if k + x = p + 5 then [⟨k, x, y, 9⟩] else []

theorem litAt_of_neg (text : List Char) {p : Int} (hp : p < 0) (y : Fin 5) :
    litAt text p y = false :=
  dif_neg (by omega)

/-- A dot of the strip that is lit belongs to the picture of a character. -/
theorem exists_of_litAt {text : List Char} {q : Int} {y : Fin 5} (h : litAt text q y = true) :
    ∃ p : Nat, q = p ∧ p < 6 * text.length ∧ p % 6 < 5 := by
  rw [litAt] at h
  split at h
  next hq => exact ⟨q.toNat, by omega, by omega, by omega⟩
  next => exact absurd h Bool.false_ne_true

/-- The dots of the pictures, at their places on the strip. -/
theorem litAt_picture (text : List Char) (i : Fin text.length) (c y : Fin 5) :
    litAt text ((6 * i + c : Nat) : Int) y = (Glyph.ofChar text[i]).isLit c y := by
  rw [litAt, dif_pos (by omega)]
  have hi : (((6 * i + c : Nat) : Int) / 6).toNat = i := by omega
  have hc : (((6 * i + c : Nat) : Int) % 6).toNat = c := by omega
  congr 2
  · simp only [List.get_eq_getElem, hi]
    rfl

theorem drawn_plots (k x : Nat) (ys : List Nat) (brightness : UInt8) (rest : List Stroke) :
    drawn k ((ys.map fun y => .plot x y brightness) ++ rest) =
      (ys.map fun y => ⟨k, x, y, brightness⟩) ++ drawn k rest := by
  induction ys with
  | nil => rfl
  | cons y ys ih => exact congrArg (⟨k, x, y, brightness⟩ :: ·) ih

/-- What a frame plots in a column of the display are the lit dots of the strip there. -/
theorem drawn_column (text : List Char) (k : Nat) (x : Fin 5) (rest : List Stroke) :
    drawn k ((if k + x < displaySize then [] else
        column x (strip text (k + x - displaySize))) ++ rest) =
      windowColumn text k x ++ drawn k rest := by
  rw [windowColumn]
  split
  next hleft =>
    have hleft' : k + x < 5 := hleft
    rw [List.filter_eq_nil_iff.2 fun y _ => by rw [litAt_of_neg text (by omega)]; simp]
    rfl
  next hleft =>
    have hleft' : ¬ k + x < 5 := hleft
    have hposition : (k : Int) - 5 + x = ((k + x - displaySize : Nat) : Int) := by
      simp only [displaySize]
      omega
    have hrows : List.range displaySize = (List.finRange 5).map Fin.val := rfl
    have hlit : (fun y => (strip text (k + x - displaySize)).toNat.testBit y) ∘ Fin.val =
        litAt text ((k + x - displaySize : Nat) : Int) := funext (testBit_strip text _)
    rw [column, hrows, List.filter_map, List.map_map, hposition, hlit, ← List.map_map,
      drawn_plots, List.map_map]
    rfl

/-- A frame draws the lit dots of its window. -/
theorem drawn_frame (text : List Char) (ms : UInt64) (k : Nat) (rest : List Stroke) :
    drawn k (frame text ms k ++ rest) = window text k ++ drawn (k + 1) rest := by
  have hcolumns : ∀ (xs : List (Fin 5)) (rest : List Stroke),
      drawn k ((xs.flatMap fun x : Fin 5 => if k + x < displaySize then [] else
          column x (strip text (k + x - displaySize))) ++ rest) =
        xs.flatMap (windowColumn text k) ++ drawn k rest := by
    intro xs rest
    induction xs with
    | nil => rfl
    | cons x xs ih =>
      rw [List.flatMap_cons, List.flatMap_cons, List.append_assoc, List.append_assoc,
        drawn_column, ih]
  rw [frame, List.cons_append, List.cons_append, List.append_assoc, drawn]
  exact hcolumns (List.finRange 5) (.pause ms :: rest)

theorem drawn_frames (text : List Char) (ms : UInt64) (k n : Nat) (rest : List Stroke) :
    drawn k (((List.range' k n).map (frame text ms)).flatten ++ rest) =
      (List.range' k n).flatMap (window text) ++ drawn (k + n) rest := by
  induction n generalizing k with
  | zero => rfl
  | succ n ih =>
    rw [List.range'_succ, List.map_cons, List.flatten_cons, List.flatMap_cons, List.append_assoc,
      List.append_assoc, drawn_frame, ih, Nat.succ_add_eq_add_succ]

/-- The animation draws the lit dots of each of its windows. -/
theorem drawn_film (text : List Char) (ms : UInt64) :
    drawn 0 (film text ms) = (List.range (5 + 6 * text.length)).flatMap (window text) := by
  have hframes := drawn_frames text ms 0 (5 + 6 * text.length) [.clear, .pause ms]
  rw [← List.range_eq_range'] at hframes
  exact hframes.trans (List.append_nil _)

/-! ## What is drawn of a dot -/

/-- Of a dot of the strip a column of the window has at most one, and it is that of the frame in
    which the dot has come there. -/
theorem filter_windowColumn (text : List Char) (k p : Nat) (x y : Fin 5) :
    (windowColumn text k x).filter (Drawn.shows p y) =
      if litAt text p y then if k + x = p + 5 then [⟨k, x, y, 9⟩] else [] else [] := by
  rw [windowColumn, List.filter_map, List.filter_filter]
  -- The window holds a column of the text at one place only, which depends on the frame.
  by_cases hx : k + x = p + 5
  · have hposition : (k : Int) - 5 + x = p := by omega
    have hrow : ∀ y' : Fin 5, (Drawn.shows p y ⟨k, x, y', 9⟩ && litAt text p y') =
        (y' == y && litAt text p y) := by
      intro y'
      by_cases hy : y' = y
      · simp [Drawn.shows, hx, hy]
      · have hy' : (y' : Nat) ≠ y := fun h => hy (Fin.ext h)
        simp only [Drawn.shows, beq_eq_false_iff_ne.2 hy, beq_eq_false_iff_ne.2 hy',
          Bool.and_false, Bool.false_and]
    have hone : ∀ y : Fin 5, (List.finRange 5).filter (· == y) = [y] := by decide
    simp only [Function.comp_def, hposition, hrow, if_pos hx]
    cases litAt text p y with
    | false => simp
    | true =>
      simp only [Bool.and_true, hone]
      rfl
  · rw [List.filter_eq_nil_iff.2 fun y' _ => by simp [Drawn.shows, hx], if_neg hx, ite_self]
    rfl

/-- A frame draws of a dot of the strip what it has of it, if the dot is lit. -/
theorem filter_window (text : List Char) (k p : Nat) (y : Fin 5) :
    (window text k).filter (Drawn.shows p y) = if litAt text p y then passing p y k else [] := by
  rw [window, List.filter_flatMap]
  simp only [filter_windowColumn]
  split
  · rfl
  · simp

/-- Five frames have a position of the strip in their windows, one after the other. -/
theorem flatMap_passing {n p : Nat} (hp : p + 5 < n) (y : Nat) :
    (List.range n).flatMap (passing p y) = crossing p y := by
  obtain ⟨m, rfl⟩ : ∃ m, n = p + 1 + (5 + m) := ⟨n - (p + 6), by omega⟩
  -- The position comes into the window at the frame `p` + 1, and is out of it five frames later.
  have hbefore : (List.range (p + 1)).flatMap (passing p y) = [] := by
    simp only [passing, List.flatMap_eq_nil_iff, List.mem_range]
    intro k hk x _
    rw [if_neg (by omega)]
  have hwithin : ∀ j : Fin 5, passing p y (p + 1 + j) = [⟨p + 1 + j, 4 - j, y, 9⟩] := by
    intro j
    have hcolumn : ∀ x : Fin 5, p + 1 + j + x = p + 5 ↔ j.val + x = 4 := fun x => by omega
    simp only [passing, hcolumn]
    match j with
    | 0 | 1 | 2 | 3 | 4 => rfl
  have hafter : ((List.range m).map fun k => p + 1 + (5 + k)).flatMap (passing p y) = [] := by
    simp only [passing, List.flatMap_eq_nil_iff, List.mem_map]
    rintro _ ⟨k, -, rfl⟩ x _
    rw [if_neg (by omega)]
  have hrange : List.range 5 = (List.finRange 5).map Fin.val := rfl
  rw [List.range_add, List.flatMap_append, hbefore, List.nil_append, List.range_add,
    List.map_append, List.flatMap_append, List.map_map]
  refine (congrArg (_ ++ ·) hafter).trans ?_
  rw [List.append_nil, hrange, List.map_map, List.flatMap_map]
  simp only [Function.comp_apply, hwithin]
  rfl

/-- What the animation draws of a dot: it crosses the display if it is lit. -/
theorem filter_drawn_film (text : List Char) (ms : UInt64) (i : Fin text.length) (c y : Fin 5) :
    (drawn 0 (film text ms)).filter (Drawn.shows (6 * i + c) y) =
      if (Glyph.ofChar text[i]).isLit c y then crossing (6 * i + c) y else [] := by
  rw [drawn_film, List.filter_flatMap]
  simp only [filter_window, litAt_picture]
  split
  · exact flatMap_passing (by omega) y
  · simp

/-- The animation draws nothing but lit dots on their way across the display. -/
theorem exists_of_mem_drawn {text : List Char} {ms : UInt64} {d : Drawn}
    (hd : d ∈ drawn 0 (film text ms)) :
    ∃ (i : Fin text.length) (c y : Fin 5), (Glyph.ofChar text[i]).isLit c y = true ∧
      d ∈ crossing (6 * i + c) y := by
  simp only [drawn_film, window, windowColumn, List.mem_flatMap, List.mem_map,
    List.mem_filter] at hd
  obtain ⟨k, -, x, -, y, ⟨-, hlit⟩, rfl⟩ := hd
  obtain ⟨p, hp, hlow⟩ := exists_of_litAt hlit
  refine ⟨⟨p / 6, by omega⟩, ⟨p % 6, hlow.2⟩, y, ?_, ?_⟩
  · rwa [← litAt_picture, Nat.div_add_mod, ← hp]
  · simp only [Nat.div_add_mod, crossing, List.mem_cons, Drawn.mk.injEq, and_self, and_true]
    omega

/-! ## How many dots are drawn -/

/-- A list that falls into classes of `n` elements each has `n` times as many elements as there
    are classes. -/
theorem length_eq_of_classes {α β : Type} {p : β → α → Bool} {classes : List β} {n : Nat}
    (hdisjoint : classes.Pairwise fun a b => ∀ d, p a d = true → p b d = false) {ds : List α}
    (hcover : ∀ d ∈ ds, ∃ a ∈ classes, p a d = true)
    (hsize : ∀ a ∈ classes, (ds.filter (p a)).length = n) :
    ds.length = n * classes.length := by
  induction classes generalizing ds with
  | nil =>
    have hnil : ds = [] := List.eq_nil_iff_forall_not_mem.2 fun d hd => by
      obtain ⟨a, ha, -⟩ := hcover d hd
      exact List.not_mem_nil ha
    rw [hnil]
    rfl
  | cons a rest ih =>
    obtain ⟨ha, hrest⟩ := List.pairwise_cons.1 hdisjoint
    -- What is not in the first class falls into the others.
    have hothers : (ds.filter fun d => !p a d).length = n * rest.length := by
      refine ih hrest (fun d hd => ?_) fun b hb => ?_
      · obtain ⟨hd, hnot⟩ := List.mem_filter.1 hd
        obtain ⟨b, hb, hpb⟩ := hcover d hd
        rcases List.mem_cons.1 hb with rfl | hb
        · rw [hpb] at hnot
          contradiction
        · exact ⟨b, hb, hpb⟩
      · rw [List.filter_filter, ← hsize b (List.mem_cons_of_mem a hb)]
        refine congrArg List.length (List.filter_congr fun d _ => ?_)
        cases hpa : p a d with
        | true => rw [ha b hb d hpa, Bool.false_and]
        | false => rw [Bool.not_false, Bool.and_true]
    have hfirst := hsize a List.mem_cons_self
    rw [List.length_eq_length_filter_add (p a), hfirst, hothers, List.length_cons, Nat.mul_succ,
      Nat.add_comm]

/-- The lit dots of the pictures of a text, with the places of the characters. -/
def lit (text : List Char) : List (Fin text.length × Fin 5 × Fin 5) :=
  ((List.finRange text.length).product ((List.finRange 5).product (List.finRange 5))).filter
    fun (i, c, y) => (Glyph.ofChar text[i]).isLit c y

theorem length_lit (text : List Char) : (lit text).length = ink text := by
  have hink : ink text = (((List.finRange text.length).map fun i => text[i]).flatMap
      fun c => (Glyph.ofChar c).litDots).length :=
    congrArg (fun cs => ink cs) (List.map_getElem_finRange text).symm
  rw [hink, lit, List.product, List.filter_flatMap, List.flatMap_map]
  simp only [List.filter_map, List.length_flatMap, List.length_map]
  rfl

theorem mem_lit {text : List Char} {i : Fin text.length} {c y : Fin 5} :
    (i, c, y) ∈ lit text ↔ (Glyph.ofChar text[i]).isLit c y = true := by
  simp [lit, List.product]

/-- Every lit dot is drawn five times. -/
theorem length_drawn_film (text : List Char) (ms : UInt64) :
    (drawn 0 (film text ms)).length = 5 * ink text := by
  rw [← length_lit]
  refine length_eq_of_classes (p := fun (i, c, y) => Drawn.shows (6 * i + c) y) ?_ ?_ ?_
  -- Different lit dots are shown by different strokes, each by the five of its crossing.
  · have hnodup : (lit text).Nodup :=
      ((List.nodup_finRange _).product
        ((List.nodup_finRange 5).product (List.nodup_finRange 5))).filter _
    refine hnodup.pairwise_of_forall_ne ?_
    rintro ⟨i, c, y⟩ - ⟨i', c', y'⟩ - hne d hd
    simp only [Drawn.shows, Bool.and_eq_true, beq_iff_eq] at hd
    rw [Bool.eq_false_iff]
    intro hd'
    simp only [Drawn.shows, Bool.and_eq_true, beq_iff_eq] at hd'
    exact hne (by simp only [Prod.mk.injEq, Fin.ext_iff]; omega)
  · intro d hd
    obtain ⟨i, c, y, hlit, hd⟩ := exists_of_mem_drawn hd
    refine ⟨(i, c, y), mem_lit.2 hlit, ?_⟩
    simp only [crossing, List.mem_cons, List.not_mem_nil, or_false] at hd
    rcases hd with rfl | rfl | rfl | rfl | rfl <;> simp [Drawn.shows]
  · rintro ⟨i, c, y⟩ hlit
    rw [filter_drawn_film, if_pos (mem_lit.1 hlit)]
    rfl

/-! ## Commands -/

/-- Every dot that is drawn is set by a command. -/
theorem countP_isSetPixel (k : Nat) (strokes : List Stroke) :
    (Event.commands (strokes.map Stroke.event)).countP Command.isSetPixel =
      (drawn k strokes).length := by
  induction strokes generalizing k with
  | nil => rfl
  | cons s rest ih =>
    cases s with
    | clear => exact ih k
    | plot x y brightness =>
      change List.countP _ (Command.setPixel _ _ brightness :: Event.commands _) = _
      rw [List.countP_cons_of_pos rfl, ih k]
      rfl
    | pause ms => exact ih (k + 1)

/-- Every other command blanks the display. -/
theorem countP_not_isSetPixel (strokes : List Stroke) :
    (Event.commands (strokes.map Stroke.event)).countP (! ·.isSetPixel) =
      strokes.count .clear := by
  induction strokes with
  | nil => rfl
  | cons s rest ih =>
    cases s with
    | clear =>
      change List.countP _ (Command.clearDisplay :: Event.commands _) = _
      rw [List.countP_cons_of_pos rfl, ih, List.count_cons_self]
    | plot x y brightness =>
      change List.countP _ (Command.setPixel _ _ brightness :: Event.commands _) = _
      rw [List.countP_cons_of_neg (by simp [Command.isSetPixel]), ih,
        List.count_cons_of_ne (by simp)]
    | pause ms => rw [List.count_cons_of_ne (by simp), ← ih]; rfl

/-- Every frame blanks the display once, and once it is blanked in the end. -/
theorem count_clear_film (text : List Char) (ms : UInt64) :
    (film text ms).count .clear = 6 * text.length + 6 := by
  -- Each frame blanks the display once, dots never do, and the end does so once more.
  have hdots : ∀ k, (dots text k).count .clear = 0 := by
    intro k
    refine List.count_eq_zero.2 fun hs => ?_
    obtain ⟨x, y, h⟩ := exists_of_mem_dots hs
    contradiction
  have hframe : ∀ k, (frame text ms k).count .clear = 1 := by
    intro k
    rw [frame, List.count_append, List.count_cons_self, hdots]
    rfl
  have hframes : ∀ ks : List Nat,
      ((ks.map (frame text ms)).flatten).count .clear = ks.length := by
    intro ks
    induction ks with
    | nil => rfl
    | cons k ks ih =>
      rw [List.map_cons, List.flatten_cons, List.count_append, hframe, ih, List.length_cons,
        Nat.add_comm]
  have hend : [.clear, .pause ms].count Stroke.clear = 1 := rfl
  rw [film, frames, List.count_append, hframes, hend, List.length_range]
  simp only [displaySize, cellWidth]
  omega

theorem events_scroll (h : Host) (text : String) :
    (h.scroll text).2.events = h.events ++ (film text.toList h.frameMs).map Stroke.event :=
  h.emitAll_events _

/-- Scrolling sets five dots for each that is lit in the text. -/
theorem pixelsSet_scroll (h : Host) (text : String) :
    (h.scroll text).2.pixelsSet = h.pixelsSet + 5 * ink text.toList := by
  rw [Host.pixelsSet, events_scroll, Event.commands_append, List.countP_append,
    countP_isSetPixel 0, length_drawn_film]
  rfl

/-- Scrolling blanks the display once for every frame, and once in the end. -/
theorem displayClears_scroll (h : Host) (text : String) :
    (h.scroll text).2.displayClears = h.displayClears + (6 * text.length + 6) := by
  rw [Host.displayClears, events_scroll, Event.commands_append, List.countP_append,
    countP_not_isSetPixel, count_clear_film, String.length_toList]
  rfl

theorem frames_scroll (h : Host) (text : String) :
    (h.scroll text).1 = 5 + 6 * text.length := by
  simp [Host.scroll, frames, displaySize, cellWidth, String.length_toList]

/-- Of every dot of the picture of every character of a text, the animation draws exactly this,
    each at full brightness, if the dot is lit: it is in five frames, one after the other, from
    the right edge of the display to the left one. If it is not lit, nothing is drawn of it, and
    nothing else is drawn at all. So five times as many dots are set as there are lit dots in the
    text, and the display is blanked 6 L + 6 times for L characters. A text that is made of two
    sets the dots of both, in five frames less than both have. -/
theorem dots_cross :
    (∀ (text : List Char) (ms : UInt64),
      (∀ (i : Fin text.length) (c y : Fin 5),
        (drawn 0 (film text ms)).filter (Drawn.shows (6 * i + c) y) =
          if (Glyph.ofChar text[i]).isLit c y then crossing (6 * i + c) y else []) ∧
      (∀ d ∈ drawn 0 (film text ms), ∃ (i : Fin text.length) (c y : Fin 5),
        (Glyph.ofChar text[i]).isLit c y = true ∧ d ∈ crossing (6 * i + c) y) ∧
      (drawn 0 (film text ms)).length = 5 * ink text ∧
      (film text ms).count .clear = 6 * text.length + 6) ∧
    (∀ (h : Host) (text : String),
      (h.scroll text).2.pixelsSet = h.pixelsSet + 5 * ink text.toList ∧
      (h.scroll text).2.displayClears = h.displayClears + (6 * text.length + 6)) ∧
    ∀ (h : Host) (a b : String),
      (h.scroll (a ++ b)).2.pixelsSet + h.pixelsSet =
        (h.scroll a).2.pixelsSet + (h.scroll b).2.pixelsSet ∧
      (h.scroll (a ++ b)).1 + 5 = (h.scroll a).1 + (h.scroll b).1 := by
  refine ⟨fun text ms => ⟨filter_drawn_film text ms, fun d => exists_of_mem_drawn,
    length_drawn_film text ms, count_clear_film text ms⟩, fun h text =>
    ⟨pixelsSet_scroll h text, displayClears_scroll h text⟩, fun h a b => ⟨?_, ?_⟩⟩
  · rw [pixelsSet_scroll, pixelsSet_scroll, pixelsSet_scroll, String.toList_append, ink_append]
    omega
  · rw [frames_scroll, frames_scroll, frames_scroll, String.length_append]
    omega

end Scroll

end LedBoard
