import LedBoard.Proofs.Json.Grammar

/-!
# Skipping values

The value of an unknown key is skipped: every value, however deep arrays and objects stand within
each other in it, up to its end and no further. The fuel of the skipping is twice the length of
the text, and no value takes as much: a bracket, a key, a colon or a comma is a step of its own,
and two steps at most come before the next character is taken (`Skipped`).

* `skipRest_value_open` and the lemmas behind it: the steps one by one;
* `Written.skipped`: the steps that a text takes, by induction on how it is written;
* `skipValue_written`: a value is skipped to its end.
-/

namespace LedBoard.Json

variable {space rest : List Char}

/-! ## White space -/

theorem skipBlanks_append (h : IsSpace space) (s : List Char) :
    skipBlanks (space ++ s) = skipBlanks s :=
  List.dropWhile_append_of_pos h

theorem skipBlanks_cons {c : Char} (hc : isBlank c = false) (s : List Char) :
    skipBlanks (c :: s) = c :: s :=
  List.dropWhile_cons_of_neg (by simpa using hc)

/-- The character behind white space. -/
theorem skipBlanks_eq (h : IsSpace space) {c : Char} (hc : isBlank c = false) (s : List Char) :
    skipBlanks (space ++ c :: s) = c :: s := by
  rw [skipBlanks_append h, skipBlanks_cons hc]

theorem isBlank_eq_false_of_isDigit {c : Char} (hc : c.isDigit = true) : isBlank c = false := by
  rw [← Bool.not_eq_true, isBlank]
  simp only [Bool.or_eq_true, beq_iff_eq]
  rintro (((rfl | rfl) | rfl) | rfl) <;> cases hc

/-- White space does not go on with a number, and what is behind it does not matter. -/
theorem ends_append (h : IsSpace space) (hrest : Ends rest) : Ends (space ++ rest) := by
  cases space with
  | nil => exact hrest
  | cons c space =>
    rintro _ ⟨⟩
    have hc := h c List.mem_cons_self
    refine ⟨?_, ?_, ?_, ?_⟩
    · rw [← Bool.not_eq_true]
      intro hdigit
      rw [isBlank_eq_false_of_isDigit hdigit] at hc
      cases hc
    all_goals rintro rfl; cases hc

theorem ends_cons {c : Char} (hc : c.isDigit = false ∧ c ≠ '.' ∧ c ≠ 'e' ∧ c ≠ 'E')
    (rest : List Char) : Ends (c :: rest) := by
  rintro _ ⟨⟩
  exact hc

theorem Enclosure.ends_closer (e : Enclosure) (rest : List Char) : Ends (e.closer :: rest) :=
  ends_cons (by cases e <;> decide) rest

/-! ## How a value starts -/

/-- The first character of a word, a string or a number. -/
def StartsScalar (c : Char) : Prop :=
  c = 'n' ∨ c = 't' ∨ c = 'f' ∨ c = '"' ∨ c = '-' ∨ c.isDigit = true

theorem StartsScalar.isBlank {c : Char} (h : StartsScalar c) : Json.isBlank c = false := by
  obtain rfl | rfl | rfl | rfl | rfl | h := h
  all_goals first
    | rfl
    | exact isBlank_eq_false_of_isDigit h

/-- A scalar starts with none of the characters that open or close an enclosure. -/
theorem StartsScalar.ne {c : Char} (h : StartsScalar c) :
    c ≠ '[' ∧ c ≠ ']' ∧ c ≠ '\x7b' ∧ c ≠ '\x7d' := by
  obtain rfl | rfl | rfl | rfl | rfl | h := h
  case inr.inr.inr.inr.inr => refine ⟨?_, ?_, ?_, ?_⟩ <;> rintro rfl <;> cases h
  all_goals decide

/-- A number starts with its sign or a digit. -/
theorem IsNumber.starts {s : List Char} (h : IsNumber s) : ∃ c r, s = c :: r ∧ StartsScalar c := by
  obtain ⟨hsign, hwhole, -, -⟩ := h
  obtain rfl | rfl := hsign
  · obtain ⟨hne, hdigits⟩ := hwhole.1
    obtain ⟨c, r, rfl⟩ := List.exists_cons_of_ne_nil hne
    simp only [StartsScalar]
    exact ⟨c, _, rfl, .inr (.inr (.inr (.inr (.inr (hdigits c List.mem_cons_self)))))⟩
  · exact ⟨'-', _, rfl, .inr (.inr (.inr (.inr (.inl rfl))))⟩

/-- A value starts with a character that closes nothing. -/
theorem Written.starts {s : List Char} (h : Written .value s) :
    ∃ c r, s = c :: r ∧ Json.isBlank c = false ∧ c ≠ ']' := by
  cases h with
  | number h =>
    obtain ⟨c, r, rfl, hc⟩ := h.starts
    exact ⟨c, r, rfl, hc.isBlank, hc.ne.2.1⟩
  | _ => exact ⟨_, _, rfl, by decide, by decide⟩

/-! ## Scalars -/

theorem skipScalar_digit {c : Char} (hc : c.isDigit = true) (s : List Char) :
    skipScalar (c :: s) = skipNumber (c :: s) := by
  have hne : c ≠ 'n' ∧ c ≠ 't' ∧ c ≠ 'f' ∧ c ≠ '"' ∧ c ≠ '-' := by
    refine ⟨?_, ?_, ?_, ?_, ?_⟩ <;> rintro rfl <;> cases hc
  rw [skipScalar.eq_def]
  split
  next heq => cases heq
  next heq => exact absurd (List.cons.inj heq).1 hne.1
  next heq => exact absurd (List.cons.inj heq).1 hne.2.1
  next heq => exact absurd (List.cons.inj heq).1 hne.2.2.1
  next heq => exact absurd (List.cons.inj heq).1 hne.2.2.2.1
  next heq => exact absurd (List.cons.inj heq).1 hne.2.2.2.2
  next heq =>
    cases heq
    rw [if_pos hc]

/-- A number is skipped as a scalar, to its end. -/
theorem skipScalar_number {s : List Char} (h : IsNumber s) (hrest : Ends rest) :
    skipScalar (s ++ rest) = .ok rest := by
  obtain ⟨hsign, hwhole, hfraction, hexponent⟩ := h
  have hskip := skipNumber_of_isWhole hwhole hfraction hexponent hrest
  simp only [List.append_assoc]
  obtain rfl | rfl := hsign
  · obtain ⟨hne, hdigits⟩ := hwhole.1
    obtain ⟨c, r, rfl⟩ := List.exists_cons_of_ne_nil hne
    rw [List.nil_append, List.cons_append, skipScalar_digit (hdigits c List.mem_cons_self)]
    exact hskip
  · exact hskip

/-- A string is skipped as a scalar, to the quote that closes it. -/
theorem skipScalar_string {text s : List Char} (h : Spells false text s) (rest : List Char) :
    skipScalar ('"' :: (s ++ '"' :: rest)) = .ok rest := by
  obtain ⟨_, hread⟩ := readString_spells h rest
  change (readString false (s ++ '"' :: rest)).map _ = _
  rw [hread]
  rfl

/-! ## Steps -/

variable (fuel : Nat) (enclosing : List Enclosure)

/-- The opening character of an enclosure. -/
def Enclosure.opener : Enclosure → Char
  | .list => '['
  | .object => '\x7b'

/-- Where the skipping stands before a part of an enclosure. -/
def Enclosure.part (e : Enclosure) : SkipState := if e = .list then .value else .key

/-- White space before a value takes no step. -/
theorem skipRest_value_space (h : IsSpace space) (s : List Char) :
    skipRest fuel .value enclosing (space ++ s) = skipRest fuel .value enclosing s := by
  cases fuel with
  | zero => rfl
  | succ fuel => rw [skipRest, skipRest, skipBlanks_append h]

/-- Nor does it anywhere in an enclosure. -/
theorem skipRest_space (e : Enclosure) (h : IsSpace space) (state : SkipState) (s : List Char) :
    skipRest fuel state (e :: enclosing) (space ++ s) =
      skipRest fuel state (e :: enclosing) s := by
  cases fuel with
  | zero => rfl
  | succ fuel => cases state <;> rw [skipRest, skipRest, skipBlanks_append h]

/-- Where a value is due, what opens an enclosure puts it on top of those around it. -/
theorem skipRest_value_open (e : Enclosure) (h : IsSpace space) (r : List Char) :
    skipRest (fuel + 1) .value enclosing (space ++ e.opener :: r) =
      skipRest fuel .opened (e :: enclosing) r := by
  rw [skipRest_value_space _ _ h]
  cases e <;> rfl

/-- Where a value is due, a scalar is skipped in one step. -/
theorem skipRest_value_scalar (h : IsSpace space) {c : Char} (hc : StartsScalar c)
    {s : List Char} (hskip : skipScalar (c :: s) = .ok rest) :
    skipRest (fuel + 1) .value enclosing (space ++ c :: s) =
      skipRest fuel .after enclosing rest := by
  rw [skipRest, skipBlanks_eq h hc.isBlank]
  split
  next heq => exact absurd (List.cons.inj heq).1 hc.ne.1
  next heq => exact absurd (List.cons.inj heq).1 hc.ne.2.2.1
  next => rw [hskip]; rfl

theorem skipRest_opened_close (e : Enclosure) (h : IsSpace space) (r : List Char) :
    skipRest (fuel + 1) .opened (e :: enclosing) (space ++ e.closer :: r) =
      skipRest fuel .after enclosing r := by
  rw [skipRest_space _ _ e h]
  cases e <;> rfl

/-- In an enclosure that has just been opened, anything that does not close it is its first part. -/
theorem skipRest_opened_part (e : Enclosure) (h : IsSpace space) {c : Char}
    (hblank : isBlank c = false) (hc : c ≠ e.closer) (r : List Char) :
    skipRest (fuel + 1) .opened (e :: enclosing) (space ++ c :: r) =
      skipRest fuel e.part (e :: enclosing) (c :: r) := by
  rw [skipRest, skipBlanks_eq h hblank]
  exact if_neg hc

/-- Behind a value the innermost enclosure may be closed, and is a value itself then. -/
theorem skipRest_after_close (e : Enclosure) (h : IsSpace space) (r : List Char) :
    skipRest (fuel + 1) .after (e :: enclosing) (space ++ e.closer :: r) =
      skipRest fuel .after enclosing r := by
  rw [skipRest_space _ _ e h]
  cases e <;> rfl

theorem skipRest_after_comma (e : Enclosure) (h : IsSpace space) (r : List Char) :
    skipRest (fuel + 1) .after (e :: enclosing) (space ++ ',' :: r) =
      skipRest fuel e.part (e :: enclosing) r := by
  rw [skipRest_space _ _ e h]
  cases e <;> rfl

/-- A key is skipped with its colon, and a value is due. -/
theorem skipRest_key (e : Enclosure) (h : IsSpace space) {text key behind : List Char}
    (hkey : Spells false text key) (hbehind : IsSpace behind) (r : List Char) :
    skipRest (fuel + 1) .key (e :: enclosing)
        (space ++ '"' :: (key ++ '"' :: (behind ++ ':' :: r))) =
      skipRest fuel .value (e :: enclosing) r := by
  obtain ⟨_, hread⟩ := readString_spells hkey (behind ++ ':' :: r)
  rw [skipRest_space _ _ e h]
  change (readString false (key ++ '"' :: (behind ++ ':' :: r)) >>= _) = _
  rw [hread]
  dsimp only [Bind.bind, Except.bind]
  rw [skipBlanks_eq hbehind (by rfl)]
  rfl

/-! ## Values -/

/-- What the skipping of a text of a kind comes to, whatever it stands in and before, in how many
    steps: a value is taken; behind the items of an array, or the members of an object, the whole
    is closed. -/
def Skipped : Form → List Char → Prop
  | .value, s => ∃ steps, steps < 2 * s.length ∧
      ∀ fuel enclosing space rest, IsSpace space → Ends rest →
        skipRest (fuel + steps) .value enclosing (space ++ (s ++ rest)) =
          skipRest fuel .after enclosing rest
  | .items, s => ∃ steps, steps ≤ 2 * s.length ∧ ∀ fuel enclosing rest,
      skipRest (fuel + steps) .value (.list :: enclosing) (s ++ Enclosure.list.closer :: rest) =
        skipRest fuel .after enclosing rest
  | .members, s => ∃ steps, steps ≤ 2 * s.length ∧ ∀ fuel enclosing rest,
      skipRest (fuel + steps) .key (.object :: enclosing) (s ++ Enclosure.object.closer :: rest) =
        skipRest fuel .after enclosing rest

/-- A scalar that is skipped by itself is skipped in one step of the whole. -/
theorem skipped_scalar {c : Char} {s : List Char} (hc : StartsScalar c)
    (hskip : ∀ rest, Ends rest → skipScalar (c :: (s ++ rest)) = .ok rest) :
    Skipped .value (c :: s) := by
  refine ⟨1, by simp only [List.length_cons]; omega, ?_⟩
  intro fuel enclosing space rest hspace hrest
  exact skipRest_value_scalar fuel enclosing hspace hc (hskip rest hrest)

variable {v after : List Char}

/-- The last value in an enclosure is skipped with the end of the enclosure. -/
theorem Skipped.last (h : Skipped .value v) (e : Enclosure) (hafter : IsSpace after) :
    ∃ steps, steps ≤ 2 * v.length ∧ ∀ fuel enclosing space rest, IsSpace space →
      skipRest (fuel + steps) .value (e :: enclosing)
          (space ++ (v ++ (after ++ e.closer :: rest))) =
        skipRest fuel .after enclosing rest := by
  obtain ⟨steps, hsteps, h⟩ := h
  refine ⟨1 + steps, by omega, fun fuel enclosing space rest hspace => ?_⟩
  rw [← Nat.add_assoc, h _ _ _ _ hspace (ends_append hafter (e.ends_closer rest)),
    skipRest_after_close _ _ e hafter]

/-- Another value in an enclosure is skipped with the comma behind it. -/
theorem Skipped.next (h : Skipped .value v) (e : Enclosure) (hafter : IsSpace after) :
    ∃ steps, steps ≤ 2 * v.length ∧ ∀ fuel enclosing space r, IsSpace space →
      skipRest (fuel + steps) .value (e :: enclosing) (space ++ (v ++ (after ++ ',' :: r))) =
        skipRest fuel e.part (e :: enclosing) r := by
  obtain ⟨steps, hsteps, h⟩ := h
  refine ⟨1 + steps, by omega, fun fuel enclosing space r hspace => ?_⟩
  rw [← Nat.add_assoc, h _ _ _ _ hspace (ends_append hafter (ends_cons (by decide) r)),
    skipRest_after_comma _ _ e hafter]

/-- An enclosure that starts with a part is skipped if its parts are. -/
theorem skipped_enclosure (e : Enclosure) {s before r : List Char} {c : Char}
    (hs : s = before ++ c :: r) (hbefore : IsSpace before) (hblank : isBlank c = false)
    (hc : c ≠ e.closer)
    (h : ∃ steps, steps ≤ 2 * s.length ∧ ∀ fuel enclosing rest,
      skipRest (fuel + steps) e.part (e :: enclosing) (s ++ e.closer :: rest) =
        skipRest fuel .after enclosing rest) :
    Skipped .value (e.opener :: (s ++ [e.closer])) := by
  obtain ⟨steps, hsteps, h⟩ := h
  refine ⟨steps + 2, by simp only [List.length_cons, List.length_append]; omega,
    fun fuel enclosing space rest hspace _ => ?_⟩
  have hclosed := h fuel enclosing rest
  rw [hs, List.append_assoc, skipRest_space _ _ e hbefore] at hclosed
  rw [hs, List.cons_append, List.append_assoc, List.append_assoc, ← Nat.add_assoc,
    skipRest_value_open _ _ e hspace, List.cons_append,
    skipRest_opened_part _ _ e hbefore hblank hc]
  exact hclosed

/-- An enclosure with nothing but white space in it is skipped in two steps. -/
theorem skipped_empty (e : Enclosure) (hspace : IsSpace space) :
    Skipped .value (e.opener :: (space ++ [e.closer])) := by
  refine ⟨2, by simp only [List.length_cons, List.length_append]; omega,
    fun fuel enclosing before rest hbefore _ => ?_⟩
  rw [List.cons_append, List.append_assoc, skipRest_value_open _ _ e hbefore]
  exact skipRest_opened_close _ _ e hspace rest

/-- Parts of an array start with a value, not with the end of the array. -/
theorem Written.items_start {s : List Char} (h : Written .items s) :
    ∃ before c r, s = before ++ c :: r ∧ IsSpace before ∧ isBlank c = false ∧ c ≠ ']' := by
  cases h with
  | item hbefore h hafter =>
    obtain ⟨c, r, rfl, hc⟩ := h.starts
    exact ⟨_, c, _, rfl, hbefore, hc⟩
  | items hbefore h hafter hs =>
    obtain ⟨c, r, rfl, hc⟩ := h.starts
    exact ⟨_, c, _, rfl, hbefore, hc⟩

theorem Written.members_start {s : List Char} (h : Written .members s) :
    ∃ before r, s = before ++ '"' :: r ∧ IsSpace before := by
  cases h with
  | member hbefore => exact ⟨_, _, rfl, hbefore⟩
  | members hbefore => exact ⟨_, _, rfl, hbefore⟩

/-- Every text that is written in the grammar is skipped. -/
theorem Written.skipped {form : Form} {s : List Char} (h : Written form s) : Skipped form s := by
  -- By induction on how the text is written. The steps for the parts add up, and a key is one more.
  induction h with
  | nullWord => exact skipped_scalar (.inl rfl) fun _ _ => rfl
  | trueWord => exact skipped_scalar (.inr (.inl rfl)) fun _ _ => rfl
  | falseWord => exact skipped_scalar (.inr (.inr (.inl rfl))) fun _ _ => rfl
  | number h =>
    obtain ⟨c, r, rfl, hc⟩ := h.starts
    exact skipped_scalar hc fun rest hrest => skipScalar_number h hrest
  | string h =>
    refine skipped_scalar (.inr (.inr (.inr (.inl rfl)))) fun rest _ => ?_
    rw [List.append_assoc]
    exact skipScalar_string h rest
  | emptyArray h => exact skipped_empty .list h
  | emptyObject h => exact skipped_empty .object h
  | array h ih =>
    obtain ⟨before, c, r, hs, hbefore, hblank, hc⟩ := h.items_start
    exact skipped_enclosure .list hs hbefore hblank hc ih
  | object h ih =>
    obtain ⟨before, r, hs, hbefore⟩ := h.members_start
    exact skipped_enclosure .object hs hbefore (by decide) (by decide) ih
  | @item before v after hbefore _ hafter ih =>
    obtain ⟨steps, hsteps, ih⟩ := ih.last .list hafter
    refine ⟨steps, by simp only [List.length_append]; omega, fun fuel enclosing rest => ?_⟩
    simp only [List.append_assoc]
    exact ih _ _ _ _ hbefore
  | @items before v after s hbefore _ hafter _ ih ihs =>
    obtain ⟨steps, hsteps, ih⟩ := ih.next .list hafter
    obtain ⟨more, hmore, ihs⟩ := ihs
    refine ⟨more + steps, by simp only [List.length_append, List.length_cons]; omega,
      fun fuel enclosing rest => ?_⟩
    simp only [List.append_assoc, List.cons_append]
    rw [← Nat.add_assoc, ih _ _ _ _ hbefore]
    exact ihs _ _ _
  | @member before text key behind between v after hbefore hkey hbehind hbetween _ hafter ih =>
    obtain ⟨steps, hsteps, ih⟩ := ih.last .object hafter
    refine ⟨steps + 1, by simp only [List.length_append, List.length_cons]; omega,
      fun fuel enclosing rest => ?_⟩
    simp only [List.append_assoc, List.cons_append]
    rw [← Nat.add_assoc, skipRest_key _ _ .object hbefore hkey hbehind]
    exact ih _ _ _ _ hbetween
  | @members before text key behind between v after s hbefore hkey hbehind hbetween _ hafter _
      ih ihs =>
    obtain ⟨steps, hsteps, ih⟩ := ih.next .object hafter
    obtain ⟨more, hmore, ihs⟩ := ihs
    refine ⟨more + steps + 1, by simp only [List.length_append, List.length_cons]; omega,
      fun fuel enclosing rest => ?_⟩
    simp only [List.append_assoc, List.cons_append]
    rw [← Nat.add_assoc, skipRest_key _ _ .object hbefore hkey hbehind, ← Nat.add_assoc,
      ih _ _ _ _ hbetween]
    exact ihs _ _ _

/-- A value is skipped to its end, whatever white space stands before it and whatever stands
    behind it, as long as that does not go on with it. -/
theorem skipValue_written (hspace : IsSpace space) (h : Written .value v) (hrest : Ends rest) :
    skipValue (space ++ (v ++ rest)) = .ok rest := by
  obtain ⟨steps, hsteps, hskip⟩ := h.skipped
  obtain ⟨fuel, hfuel⟩ : ∃ fuel,
      2 * (space ++ (v ++ rest)).length + 2 = fuel + 1 + steps := by
    refine ⟨2 * (space ++ (v ++ rest)).length + 1 - steps, ?_⟩
    simp only [List.length_append]
    omega
  rw [skipValue, hfuel, hskip _ _ _ _ hspace hrest]
  rfl

end LedBoard.Json
