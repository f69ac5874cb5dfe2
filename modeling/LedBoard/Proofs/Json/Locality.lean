import LedBoard.Proofs.Json.Records

/-!
# Local reading

A reader is local if it looks at the text of its value and no further: white space before the
value makes no difference, and what is behind the value is left over as it is (`Local`). So a text
that a local reader takes as a whole is read in the same way wherever it stands
(`Local.reads`). Behind a number there must be something that does not go on with it; of other
values the end shows.

All readers of truth values and of numbers are local: the digits of a number, its fraction and its
exponent are runs, which end with it.

* `readNumber_append`: what is behind a number;
* `local_readBool`, `local_readNatural`, `local_readFloat`: the readers.
-/

namespace LedBoard.Json

/-- The reader looks at the text of its value and no further, and nothing is a value that starts
    with what closes an array. -/
structure Local {α : Type} (read : Reader α) : Prop where
  space : ∀ (space : Space) (s : List Char), read (space ++ s) = read s
  append : ∀ {s r rest : List Char} {a : α}, Ends rest → read s = .ok (a, r) →
    read (s ++ rest) = .ok (a, r ++ rest)
  start : ∀ {s r : List Char} {a : α}, read s = .ok (a, r) → ∃ c t, skipBlanks s = c :: t ∧ c ≠ ']'

variable {α β : Type} {read : Reader α} {rest : List Char}

/-- A text that is taken as a whole is read wherever it stands. -/
theorem Local.reads (h : Local read) {v : List Char} {a : α} (hv : read v = .ok (a, [])) :
    Reads read v a :=
  fun space _ hrest => (h.space space _).trans (h.append hrest hv)

/-- A text that is taken as a whole starts a value, if it does not start with white space. -/
theorem Local.exists_cons (h : Local read) {v : List Char} {a : α} (hv : read v = .ok (a, []))
    (hblank : ∀ c ∈ v.head?, isBlank c = false) :
    ∃ c r, v = c :: r ∧ isBlank c = false ∧ c ≠ ']' := by
  obtain ⟨c, r, hskip, hc⟩ := h.start hv
  cases v with
  | nil => cases hskip
  | cons d v =>
    rw [skipBlanks_cons (hblank d rfl)] at hskip
    cases hskip
    exact ⟨c, r, rfl, hblank c rfl, hc⟩

/-- A result that is read is a result that is read and changed. -/
theorem map_eq_ok {ε : Type} {f : α → β} {x : Except ε α} {b : β} (h : x.map f = .ok b) :
    ∃ a, x = .ok a ∧ f a = b := by
  cases x with
  | error e => cases h
  | ok a => exact ⟨a, rfl, Except.ok.inj h⟩

theorem bind_eq_ok {ε : Type} {f : α → Except ε β} {x : Except ε α} {b : β}
    (h : x >>= f = .ok b) : ∃ a, x = .ok a ∧ f a = .ok b := by
  cases x with
  | error e => cases h
  | ok a => exact ⟨a, rfl, h⟩

/-- The reader whose value is checked and changed afterwards. -/
def checked (read : Reader α) (f : α → Except Problem β) : Reader β := fun s => do
  let (a, r) ← read s
  (f a).map (·, r)

/-- A reader stays local when its results are checked, since the check does not see the text. -/
theorem Local.checked (h : Local read) (f : α → Except Problem β) : Local (checked read f) := by
  refine ⟨fun space s => by rw [Json.checked, Json.checked, h.space], ?_, ?_⟩
  · intro s r rest b hrest hread
    obtain ⟨⟨a, r'⟩, hs, hb⟩ := bind_eq_ok hread
    obtain ⟨b', hf, hb⟩ := map_eq_ok hb
    cases hb
    rw [Json.checked, h.append hrest hs, ok_bind]
    change (f a).map _ = _
    rw [hf]
    rfl
  · intro s r b hread
    obtain ⟨_, hs, -⟩ := bind_eq_ok hread
    exact h.start hs

/-- A reader stays local when its results are changed. -/
theorem Local.map (h : Local read) (f : α → β) :
    Local fun s => (read s).map fun (a, r) => (f a, r) := by
  refine ⟨fun space s => by rw [h.space], ?_, ?_⟩
  · intro s r rest b hrest hread
    obtain ⟨⟨a, r'⟩, hs, hb⟩ := map_eq_ok hread
    cases hb
    rw [h.append hrest hs]
    rfl
  · intro s r b hread
    obtain ⟨_, hs, -⟩ := map_eq_ok hread
    exact h.start hs

/-! ## Words and values of a wrong type -/

/-- A word is read whatever is behind it. -/
theorem readWord_append {word s r : List Char} (h : readWord word s = .ok r) (rest : List Char) :
    readWord word (s ++ rest) = .ok (r ++ rest) := by
  induction word generalizing s with
  | nil =>
    cases h
    rfl
  | cons w word ih =>
    cases s with
    | nil => cases h
    | cons c s =>
      rw [readWord] at h
      rw [List.cons_append, readWord]
      split at h
      next hc => rw [if_pos hc, ih h]
      next => cases h

/-- Nothing is read of a value of a wrong type. -/
theorem wrongType_ne_ok (expected : String) (s : List Char) (x : α × List Char) :
    wrongType expected s ≠ .ok x := by
  intro h
  rw [wrongType.eq_def] at h
  split at h
  case h_1 => cases h
  case h_6 => cases h
  case h_7 => cases h
  case h_8 =>
    simp only at h
    split at h
    · obtain ⟨⟨n, _⟩, -, h⟩ := bind_eq_ok h
      cases n <;> cases h
    · split at h
      · obtain ⟨⟨n, _⟩, -, h⟩ := bind_eq_ok h
        cases n <;> cases h
      · cases h
  all_goals
    obtain ⟨_, -, h⟩ := bind_eq_ok h
    cases h

/-! ## Numbers -/

/-- As many digits are taken of a text whatever is behind it, if that starts with no digit. -/
theorem takeDigits_append (hrest : ∀ c ∈ rest.head?, c.isDigit = false) (n : Nat) (s : List Char) :
    takeDigits n (s ++ rest) =
      ((takeDigits n s).1, (takeDigits n s).2.1, (takeDigits n s).2.2 ++ rest) := by
  induction s generalizing n with
  | nil =>
    cases rest with
    | nil => rfl
    | cons c rest =>
      have hc := hrest c rfl
      simp only [takeDigits, List.nil_append, hc, Bool.false_and, Bool.false_eq_true, if_false]
  | cons c s ih =>
    rw [List.cons_append, takeDigits, takeDigits, ih]
    split <;> rfl

theorem startsWithDigit_append_of_head (hrest : ∀ c ∈ rest.head?, c.isDigit = false)
    (s : List Char) : startsWithDigit (s ++ rest) = startsWithDigit s := by
  cases s with
  | nil => exact startsWithDigit_eq_false hrest
  | cons c s => rfl

theorem isEmpty_append_of_ne {s : List Char} (hne : s ≠ []) (rest : List Char) :
    (s ++ rest).isEmpty = s.isEmpty := by
  rw [List.isEmpty_eq_false_iff.2 hne,
    List.isEmpty_eq_false_iff.2 (List.append_ne_nil_of_left_ne_nil hne rest)]

/-- A text that does not start with a character starts with another one, or what is behind it
    does. -/
theorem append_ne_cons {c : Char} {s : List Char} (hs : ∀ t, s = c :: t → False)
    (hrest : ∀ d ∈ rest.head?, d ≠ c) (t : List Char) : s ++ rest ≠ c :: t := by
  intro heq
  cases s with
  | nil =>
    subst heq
    exact hrest c rfl rfl
  | cons d s =>
    cases heq
    exact hs s rfl

/-- An exponent starts with a minus sign, and what is behind its sign, if it has one. -/
def exponentSign : List Char → Bool × List Char
  | '+' :: r => (false, r)
  | '-' :: r => (true, r)
  | r => (false, r)

/-- The sign of an exponent that is there is read whatever is behind it. -/
theorem exponentSign_append {s : List Char} (hne : s ≠ []) (rest : List Char) :
    exponentSign (s ++ rest) = ((exponentSign s).1, (exponentSign s).2 ++ rest) := by
  cases s with
  | nil => exact absurd rfl hne
  | cons c s =>
    by_cases hplus : c = '+'
    · subst hplus
      rfl
    · by_cases hminus : c = '-'
      · subst hminus
        rfl
      · have hunsigned : ∀ s, exponentSign (c :: s) = (false, c :: s) := by
          intro s
          rw [exponentSign.eq_def]
          split
          next heq => exact absurd (List.cons.inj heq).1 hplus
          next heq => exact absurd (List.cons.inj heq).1 hminus
          next => rfl
        rw [List.cons_append, hunsigned, hunsigned]
        rfl

/-- Reads the digits of an exponent from behind its sign. -/
def readShift (negative : Bool) (significand : Nat) (exponent : Int) (down : Bool)
    (s : List Char) : Except Problem (Number × List Char) :=
  if s.isEmpty then .error (.ended .value)
  else if !startsWithDigit s then .error .invalidNumber
  else
    let shift : Nat := (s.takeWhile Char.isDigit).foldl (fun n c => n * 10 + digitValue c) 0
    (scaled negative significand (if down then exponent - shift else exponent + shift)).map
      (·, s.dropWhile Char.isDigit)

/-- An exponent is read as its sign and then its shift, whatever the sign. -/
theorem readExponent_eq (negative : Bool) (significand : Nat) (exponent : Int) (s : List Char) :
    readExponent negative significand exponent s =
      readShift negative significand exponent (exponentSign s).1 (exponentSign s).2 := by
  rw [readExponent.eq_def]
  split
  next down t hsign =>
    have hsign : exponentSign s = (down, t) := hsign
    rw [hsign, readShift]
    cases t.isEmpty <;> cases startsWithDigit t
    case false.true => exact bind_pure_comp _ _
    all_goals rfl

variable {negative : Bool} {significand : Nat} {exponent : Int} {s r : List Char} {x : Number}

/-- What is behind the digits of an exponent is left over. -/
theorem readShift_append {down : Bool}
    (h : readShift negative significand exponent down s = .ok (x, r)) (hrest : Ends rest) :
    readShift negative significand exponent down (s ++ rest) = .ok (x, r ++ rest) := by
  rw [readShift] at h
  cases hempty : s.isEmpty with
  | true =>
    rw [hempty] at h
    cases h
  | false =>
    have hne : s ≠ [] := List.isEmpty_eq_false_iff.1 hempty
    cases hdigit : startsWithDigit s with
    | false =>
      rw [hempty, hdigit] at h
      cases h
    | true =>
      rw [hempty, hdigit] at h
      obtain ⟨y, hscaled, hy⟩ := map_eq_ok h
      cases hy
      rw [readShift, isEmpty_append_of_ne hne, hempty,
        startsWithDigit_append_of_head hrest.not_isDigit, hdigit,
        takeWhile_append_of_head hrest.not_isDigit, dropWhile_append_of_head hrest.not_isDigit]
      change (scaled _ _ _).map _ = _
      rw [hscaled]
      rfl

theorem readExponent_append (h : readExponent negative significand exponent s = .ok (x, r))
    (hrest : Ends rest) :
    readExponent negative significand exponent (s ++ rest) = .ok (x, r ++ rest) := by
  have hne : s ≠ [] := by
    rintro rfl
    cases h
  rw [readExponent_eq] at h ⊢
  rw [exponentSign_append hne]
  exact readShift_append h hrest

/-- What is behind a number is left over from its scale on, with or without an exponent. -/
theorem readScale_append (h : readScale negative significand exponent s = .ok (x, r))
    (hrest : Ends rest) :
    readScale negative significand exponent (s ++ rest) = .ok (x, r ++ rest) := by
  rw [readScale.eq_def] at h
  split at h
  next => exact readExponent_append h hrest
  next => exact readExponent_append h hrest
  next he hE =>
    -- There is no exponent, and what is behind the number does not start one.
    obtain ⟨y, hscaled, hy⟩ := map_eq_ok h
    cases hy
    rw [readScale.eq_def]
    split
    next heq => exact absurd heq (append_ne_cons he (fun d hd => (hrest d hd).2.2.1) _)
    next heq => exact absurd heq (append_ne_cons hE (fun d hd => (hrest d hd).2.2.2) _)
    next => rw [hscaled]; rfl

/-- What is behind a fraction is left over. -/
theorem readFraction_append (h : readFraction negative significand exponent s = .ok (x, r))
    (hrest : Ends rest) :
    readFraction negative significand exponent (s ++ rest) = .ok (x, r ++ rest) := by
  have hne : s ≠ [] := by
    rintro rfl
    cases h
  rw [readFraction] at h ⊢
  rw [isEmpty_append_of_ne hne, startsWithDigit_append_of_head hrest.not_isDigit,
    takeDigits_append hrest.not_isDigit]
  split at h
  next => cases h
  next =>
    split at h
    next => cases h
    next hempty' hdigit =>
      rw [if_neg hempty', if_neg hdigit]
      simp only [dropWhile_append_of_head hrest.not_isDigit]
      exact readScale_append h hrest

/-- The number that digits stand for without a fraction and an exponent: the `significand`, and
    how many digits are `beyond` it. -/
def integral (negative : Bool) (significand beyond : Nat) : Except Problem Number :=
  if beyond ≠ 0 then scaled negative significand beyond
  else if !negative then .ok (.integer significand)
  else if 1 ≤ significand && significand ≤ Nat.pow 2 63 then .ok (.integer (-significand))
  else scaled true significand 0

/-- Reads what is behind the digits of the significand. -/
def readBeyond (negative : Bool) (significand : Nat) (s : List Char) :
    Except Problem (Number × List Char) :=
  match s.dropWhile Char.isDigit with
  | '.' :: rest => readFraction negative significand (s.takeWhile Char.isDigit).length rest
  | 'e' :: rest | 'E' :: rest =>
    readExponent negative significand (s.takeWhile Char.isDigit).length rest
  | rest => (integral negative significand (s.takeWhile Char.isDigit).length).map (·, rest)

/-- A number is read as its digits and what is beyond those that fit: a fraction, an exponent or the
    end. -/
theorem readNumber_eq (negative : Bool) (s : List Char) :
    readNumber negative s =
      if s.isEmpty then .error (.ended .value)
      else if !startsWithDigit s then .error .invalidNumber
      else if s.head? = some '0' && startsWithDigit s.tail then .error .invalidNumber
      else readBeyond negative (takeDigits 0 s).1 (takeDigits 0 s).2.2 := by
  have hintegral : ∀ significand (beyond rest : List Char),
      (if !beyond.isEmpty then (scaled negative significand beyond.length).map (·, rest)
        else if !negative then .ok (.integer significand, rest)
        else if 1 ≤ significand && significand ≤ Nat.pow 2 63 then
          .ok (.integer (-significand), rest)
        else (scaled true significand 0).map (·, rest)) =
      (integral negative significand beyond.length).map (·, rest) := by
    intro significand beyond rest
    rw [integral]
    cases beyond with
    | cons c beyond => rfl
    | nil =>
      cases negative with
      | false => rfl
      | true =>
        cases 1 ≤ significand && significand ≤ Nat.pow 2 63 <;> rfl
  rw [readNumber]
  simp only [hintegral]
  rfl

/-- What is behind a number is left over from its point or exponent on. -/
theorem readBeyond_append (h : readBeyond negative significand s = .ok (x, r))
    (hrest : Ends rest) : readBeyond negative significand (s ++ rest) = .ok (x, r ++ rest) := by
  rw [readBeyond] at h ⊢
  rw [takeWhile_append_of_head hrest.not_isDigit, dropWhile_append_of_head hrest.not_isDigit]
  split at h
  next heq => rw [heq]; exact readFraction_append h hrest
  next heq => rw [heq]; exact readExponent_append h hrest
  next heq => rw [heq]; exact readExponent_append h hrest
  next hpoint he hE =>
    obtain ⟨y, hintegral, hy⟩ := map_eq_ok h
    cases hy
    split
    next heq => exact absurd heq (append_ne_cons hpoint (fun d hd => (hrest d hd).2.1) _)
    next heq => exact absurd heq (append_ne_cons he (fun d hd => (hrest d hd).2.2.1) _)
    next heq => exact absurd heq (append_ne_cons hE (fun d hd => (hrest d hd).2.2.2) _)
    next => rw [hintegral]; rfl

/-- What is behind a number is left over. -/
theorem readNumber_append (h : readNumber negative s = .ok (x, r)) (hrest : Ends rest) :
    readNumber negative (s ++ rest) = .ok (x, r ++ rest) := by
  have hstop := hrest.not_isDigit
  have hne : s ≠ [] := by
    rintro rfl
    cases h
  -- The checks at the start look at two characters, the second of which may be behind the number.
  rw [readNumber_eq] at h ⊢
  rw [isEmpty_append_of_ne hne, startsWithDigit_append_of_head hstop,
    List.tail_append_of_ne_nil hne, startsWithDigit_append_of_head hstop,
    List.head?_append_of_ne_nil _ hne, takeDigits_append hstop]
  split at h
  next => cases h
  next hempty =>
    split at h
    next => cases h
    next hdigit =>
      split at h
      next => cases h
      next hzero =>
        rw [if_neg hempty, if_neg hdigit, if_neg hzero]
        exact readBeyond_append h hrest

/-! ## Readers -/

theorem skipBlanks_append_of_cons {c : Char} (h : skipBlanks s = c :: r) (rest : List Char) :
    skipBlanks (s ++ rest) = c :: (r ++ rest) :=
  dropWhile_append_of_dropWhile rest h

theorem local_readBool : Local readBool := by
  refine ⟨fun space s => by rw [readBool, readBool, skipBlanks_append space.2], ?_, ?_⟩
  · intro s r rest b _ h
    rw [readBool] at h ⊢
    split at h
    next heq =>
      obtain ⟨t, hword, ht⟩ := map_eq_ok h
      cases ht
      rw [skipBlanks_append_of_cons heq]
      exact congrArg (Except.map _) (readWord_append hword rest)
    next heq =>
      obtain ⟨t, hword, ht⟩ := map_eq_ok h
      cases ht
      rw [skipBlanks_append_of_cons heq]
      exact congrArg (Except.map _) (readWord_append hword rest)
    next => exact absurd h (wrongType_ne_ok _ _ _)
  · intro s r b h
    rw [readBool] at h
    split at h
    next heq => exact ⟨_, _, heq, by decide⟩
    next heq => exact ⟨_, _, heq, by decide⟩
    next => exact absurd h (wrongType_ne_ok _ _ _)

/-- Numbers of either sign are taken as a whole. -/
theorem local_readNumeric (expected : String) : Local (readNumeric expected) := by
  refine ⟨fun space s => by rw [readNumeric, readNumeric, skipBlanks_append space.2], ?_, ?_⟩
  · intro s r rest x hrest h
    rw [readNumeric] at h ⊢
    split at h
    next heq =>
      rw [skipBlanks_append_of_cons heq]
      exact readNumber_append h hrest
    next c r' hminus heq =>
      rw [skipBlanks_append_of_cons heq]
      split at h
      next hdigit =>
        split
        next heq => exact absurd (List.cons.inj heq).1 hminus
        next heq =>
          cases heq
          rw [if_pos hdigit]
          exact readNumber_append h hrest
        next heq => cases heq
      next => exact absurd h (wrongType_ne_ok _ _ _)
    next => cases h
  · intro s r x h
    rw [readNumeric] at h
    split at h
    next heq => exact ⟨_, _, heq, by decide⟩
    next heq =>
      split at h
      next hdigit => exact ⟨_, _, heq, by rintro rfl; cases hdigit⟩
      next => exact absurd h (wrongType_ne_ok _ _ _)
    next => cases h

/-- A natural of a number, if it is one and below the bound. -/
def natural? (bound : Nat) (expected : String) : Number → Except Problem Nat
  | .integer n =>
    if 0 ≤ n && n < bound then .ok n.toNat else .error (.wrongValue (.integer n) expected)
  | .float x => .error (.wrongType (.float x) expected)

/-- Naturals are numbers that are checked for their bound. -/
theorem local_readNatural (bound : Nat) (expected : String) :
    Local (readNatural bound expected) := by
  have heq : readNatural bound expected =
      checked (readNumeric expected) (natural? bound expected) := by
    funext s
    rw [readNatural, checked]
    congr 1
    funext ⟨n, r⟩
    cases n with
    | integer n =>
      simp only [natural?]
      cases 0 ≤ n && n < bound <;> rfl
    | float x => rfl
  rw [heq]
  exact (local_readNumeric expected).checked _

theorem local_readUInt32 : Local readUInt32 := (local_readNatural _ _).map UInt32.ofNat

theorem local_readUInt64 : Local readUInt64 := (local_readNatural _ _).map UInt64.ofNat

/-- The floating-point number of a number. -/
def float? : Number → Except Problem Binary64.Finite
  | .float x => .ok x
  | .integer n =>
    match Binary64.Finite.ofNat (n < 0) n.natAbs with
    | some x => .ok x
    | none => .error .numberOutOfRange

theorem readFloat_eq : readFloat = checked (readNumeric "f64") float? := by
  funext s
  rw [readFloat, checked]
  congr 1
  funext ⟨n, r⟩
  cases n with
  | integer n =>
    simp only [float?]
    cases Binary64.Finite.ofNat (n < 0) n.natAbs <;> rfl
  | float x => rfl

theorem local_readFloat : Local readFloat := by
  rw [readFloat_eq]
  exact (local_readNumeric "f64").checked float?

/-- A field is as local as the reader of its values. -/
theorem Local.field {ρ : Type} (h : Local read) (key : String) (put : α → ρ → ρ) :
    Local (Field.of key read put).read :=
  h.map put

end LedBoard.Json
