import LedBoard.Json.Reader
import LedBoard.Proofs.Text.Runs
import Mathlib.Data.List.Basic

/-!
# The grammar of JSON

What JSON texts look like, apart from any way of reading them: white space (`IsSpace`), the
inside of a string and the text it stands for (`Spells`), numbers (`IsNumber`), and values
(`Written`), where the items of an array and the members of an object are separated by commas and
white space may stand around every part.

A number is the only value that does not show its own end: it ends where the text does not go on
with it (`Ends`).

* `readString_spells`: a string is read to the text it stands for;
* `skipNumber_of_isNumber`: a number is skipped to its end.
-/

namespace LedBoard.Json

/-- White space and nothing else. -/
def IsSpace (s : List Char) : Prop := ∀ c ∈ s, isBlank c = true

instance (s : List Char) : Decidable (IsSpace s) := List.decidableBAll (isBlank · = true) s

/-- The text does not go on with a number that stands before it. -/
def Ends (s : List Char) : Prop := ∀ c ∈ s.head?, c.isDigit = false ∧ c ≠ '.' ∧ c ≠ 'e' ∧ c ≠ 'E'

/-! ## Strings -/

/-- The characters with an escape of their own, each with the letter behind its backslash. -/
def shortEscapes : List (Char × Char) :=
  [('"', '"'), ('\\', '\\'), ('/', '/'), ('\x08', 'b'), ('\x0c', 'f'), ('\n', 'n'), ('\r', 'r'),
    ('\t', 't')]

/-- Between quotes, the second text stands for the first one. A character is written as it is
    unless it is a quote, a backslash or a control; or by its own escape; or by its code in four
    digits; or, beyond the first 65536, by the codes of two halves. Where the text is not
    `wanted`, halves may stand alone. -/
inductive Spells (wanted : Bool) : List Char → List Char → Prop
  | nil : Spells wanted [] []
  | plain {c : Char} {text s : List Char} (hquote : c ≠ '"') (hbackslash : c ≠ '\\')
      (hcontrol : 0x20 ≤ c.toNat) (h : Spells wanted text s) : Spells wanted (c :: text) (c :: s)
  | short {c e : Char} {text s : List Char} (he : (c, e) ∈ shortEscapes)
      (h : Spells wanted text s) : Spells wanted (c :: text) ('\\' :: e :: s)
  | code {n : Nat} {a b c d : Char} {text s : List Char} (hn : Text.hexValue? [a, b, c, d] = some n)
      (hwhole : wanted = true → isLeading n = false ∧ isTrailing n = false)
      (h : Spells wanted text s) :
      Spells wanted (Char.ofNat n :: text) ('\\' :: 'u' :: a :: b :: c :: d :: s)
  | pair {m n : Nat} {a b c d a' b' c' d' : Char} {text s : List Char} (hwanted : wanted = true)
      (hm : Text.hexValue? [a, b, c, d] = some m) (hlead : isLeading m = true)
      (hn : Text.hexValue? [a', b', c', d'] = some n) (htrail : isTrailing n = true)
      (h : Spells wanted text s) :
      Spells wanted (Char.ofNat (0x10000 + (m - 0xd800) * 1024 + (n - 0xdc00)) :: text)
        ('\\' :: 'u' :: a :: b :: c :: d :: '\\' :: 'u' :: a' :: b' :: c' :: d' :: s)

theorem readHex_eq {n : Nat} {a b c d : Char} (hn : Text.hexValue? [a, b, c, d] = some n)
    (s : List Char) : ∃ h, readHex (a :: b :: c :: d :: s) = .ok (n, ⟨s, h⟩) := by
  refine ⟨by simp only [List.length_cons]; omega, ?_⟩
  rw [readHex, hn]

/-- An escape of one letter is read to its character. -/
theorem readEscape_short {c e : Char} (he : (c, e) ∈ shortEscapes) (wanted : Bool)
    (s : List Char) : ∃ h, readEscape wanted (e :: s) = .ok (c, ⟨s, h⟩) := by
  refine ⟨Nat.lt_succ_self _, ?_⟩
  simp only [shortEscapes, List.mem_cons, Prod.mk.injEq, List.not_mem_nil, or_false] at he
  obtain ⟨rfl, rfl⟩ | ⟨rfl, rfl⟩ | ⟨rfl, rfl⟩ | ⟨rfl, rfl⟩ | ⟨rfl, rfl⟩ | ⟨rfl, rfl⟩ | ⟨rfl, rfl⟩ |
    ⟨rfl, rfl⟩ := he <;> rfl

/-- An escape by a code is read to the character of the code. The half of a pair is no character,
    and may come only where the text is not wanted. -/
theorem readEscape_code {wanted : Bool} {n : Nat} {a b c d : Char}
    (hn : Text.hexValue? [a, b, c, d] = some n)
    (hwhole : wanted = true → isLeading n = false ∧ isTrailing n = false) (s : List Char) :
    ∃ h, readEscape wanted ('u' :: a :: b :: c :: d :: s) = .ok (Char.ofNat n, ⟨s, h⟩) := by
  obtain ⟨hlt, hhex⟩ := readHex_eq hn s
  have halone : (!wanted || !(isLeading n || isTrailing n)) = true := by
    cases wanted with
    | false => rfl
    | true => rw [(hwhole rfl).1, (hwhole rfl).2]; rfl
  refine ⟨Nat.lt_succ_of_lt hlt, ?_⟩
  simp only [readEscape, hhex, halone]
  rfl

/-- Two codes that are the halves of a pair are read to the one character they stand for. -/
theorem readEscape_pair {m n : Nat} {a b c d a' b' c' d' : Char}
    (hm : Text.hexValue? [a, b, c, d] = some m) (hlead : isLeading m = true)
    (hn : Text.hexValue? [a', b', c', d'] = some n) (htrail : isTrailing n = true)
    (s : List Char) :
    ∃ h, readEscape true ('u' :: a :: b :: c :: d :: '\\' :: 'u' :: a' :: b' :: c' :: d' :: s) =
      .ok (Char.ofNat (0x10000 + (m - 0xd800) * 1024 + (n - 0xdc00)), ⟨s, h⟩) := by
  obtain ⟨_, hhex⟩ := readHex_eq hm ('\\' :: 'u' :: a' :: b' :: c' :: d' :: s)
  obtain ⟨_, hhex'⟩ := readHex_eq hn s
  have hnot : isTrailing m = false := by
    simp only [isLeading, isTrailing, Bool.and_eq_true, decide_eq_true_eq, Bool.and_eq_false_iff,
      decide_eq_false_iff_not] at hlead ⊢
    omega
  refine ⟨by simp only [List.length_cons]; omega, ?_⟩
  simp only [readEscape, hhex, hlead, hnot, readPartner, hhex', htrail]
  rfl

/-- An escape is read, and then the rest of the string. -/
theorem readString_escape {wanted : Bool} {c : Char} {text s r rest : List Char}
    {h : r.length < s.length} (hescape : readEscape wanted s = .ok (c, ⟨r, h⟩))
    (hread : ∃ h, readString wanted r = .ok (text, ⟨rest, h⟩)) :
    ∃ h, readString wanted ('\\' :: s) = .ok (c :: text, ⟨rest, h⟩) := by
  obtain ⟨hlt, hread⟩ := hread
  refine ⟨Nat.lt_succ_of_lt (Nat.lt_trans hlt h), ?_⟩
  rw [readString, if_neg (by decide), if_pos rfl, hescape]
  simp only [hread]

/-- A string is read to the text that it stands for, up to its closing quote. -/
theorem readString_spells {wanted : Bool} {text s : List Char} (h : Spells wanted text s)
    (rest : List Char) : ∃ hlt, readString wanted (s ++ '"' :: rest) = .ok (text, ⟨rest, hlt⟩) := by
  -- By induction on the spelling, character by character of the text.
  induction h with
  | nil =>
    refine ⟨Nat.lt_succ_self _, ?_⟩
    change readString wanted ('"' :: rest) = _
    rw [readString, if_pos rfl]
  | @plain c text s hquote hbackslash hcontrol _ ih =>
    obtain ⟨hlt, ih⟩ := ih
    refine ⟨Nat.lt_succ_of_lt hlt, ?_⟩
    change readString wanted (c :: (s ++ '"' :: rest)) = _
    rw [readString, if_neg hquote, if_neg hbackslash, if_neg (Nat.not_lt.2 hcontrol), ih]
  | @short c e text s he _ ih =>
    obtain ⟨_, hescape⟩ := readEscape_short he wanted (s ++ '"' :: rest)
    exact readString_escape hescape ih
  | @code n a b c d text s hn hwhole _ ih =>
    obtain ⟨_, hescape⟩ := readEscape_code hn hwhole (s ++ '"' :: rest)
    exact readString_escape hescape ih
  | @pair m n a b c d a' b' c' d' text s hwanted hm hlead hn htrail _ ih =>
    subst hwanted
    obtain ⟨_, hescape⟩ := readEscape_pair hm hlead hn htrail (s ++ '"' :: rest)
    exact readString_escape hescape ih

/-- Neither quotes nor backslashes nor controls. -/
def IsPlain (text : List Char) : Prop := ∀ c ∈ text, c ≠ '"' ∧ c ≠ '\\' ∧ 0x20 ≤ c.toNat

instance (text : List Char) : Decidable (IsPlain text) :=
  List.decidableBAll (fun c => c ≠ '"' ∧ c ≠ '\\' ∧ 0x20 ≤ c.toNat) text

/-- Such a text stands for itself. -/
theorem spells_self {text : List Char} (h : IsPlain text) : Spells true text text := by
  induction text with
  | nil => exact .nil
  | cons c text ih =>
    obtain ⟨⟨hquote, hbackslash, hcontrol⟩, htext⟩ := List.forall_mem_cons.1 h
    exact .plain hquote hbackslash hcontrol (ih htext)

/-! ## Numbers -/

/-- Decimal digits, at least one. -/
def IsDigits (s : List Char) : Prop := s ≠ [] ∧ ∀ c ∈ s, c.isDigit = true

/-- The digits of an integer, of which there is only one if the first one is zero. -/
def IsWhole (s : List Char) : Prop := IsDigits s ∧ (s.head? = some '0' → s = ['0'])

/-- A point with digits behind it, or nothing. -/
inductive IsFraction : List Char → Prop
  | none : IsFraction []
  | digits {s : List Char} (h : IsDigits s) : IsFraction ('.' :: s)

/-- An `e` with digits behind it, which may have a sign, or nothing. -/
inductive IsExponent : List Char → Prop
  | none : IsExponent []
  | digits {e : Char} {sign s : List Char} (he : e = 'e' ∨ e = 'E')
      (hsign : sign = [] ∨ sign = ['+'] ∨ sign = ['-']) (h : IsDigits s) :
      IsExponent (e :: (sign ++ s))

/-- An integer, which may have a minus sign, a fraction and an exponent. -/
inductive IsNumber : List Char → Prop
  | mk {sign whole fraction exponent : List Char} (hsign : sign = [] ∨ sign = ['-'])
      (hwhole : IsWhole whole) (hfraction : IsFraction fraction)
      (hexponent : IsExponent exponent) :
      IsNumber (sign ++ (whole ++ (fraction ++ exponent)))

variable {rest : List Char}

theorem Ends.not_isDigit (h : Ends rest) : ∀ c ∈ rest.head?, c.isDigit = false :=
  fun c hc => (h c hc).1

theorem startsWithDigit_eq_false (h : ∀ c ∈ rest.head?, c.isDigit = false) :
    startsWithDigit rest = false := by
  cases rest with
  | nil => rfl
  | cons c rest => exact h c rfl

theorem startsWithDigit_append {s : List Char} (h : IsDigits s) (rest : List Char) :
    startsWithDigit (s ++ rest) = true := by
  obtain ⟨hne, hs⟩ := h
  cases s with
  | nil => exact absurd rfl hne
  | cons c s => exact hs c List.mem_cons_self

theorem skipDigits_append {s : List Char} (h : IsDigits s)
    (hrest : ∀ c ∈ rest.head?, c.isDigit = false) : skipDigits (s ++ rest) = .ok rest := by
  rw [skipDigits, if_pos (startsWithDigit_append h rest), dropWhile_run h.2 hrest]

/-- Digits that are not followed by one hold no second digit behind a leading zero. -/
theorem IsWhole.not_zero_digit {s : List Char} (h : IsWhole s)
    (hrest : ∀ c ∈ rest.head?, c.isDigit = false) :
    ¬ ((s ++ rest).head? = some '0' ∧ startsWithDigit (s ++ rest).tail = true) := by
  rintro ⟨hzero, hdigit⟩
  rw [List.head?_append_of_ne_nil _ h.1.1] at hzero
  rw [h.2 hzero, List.singleton_append, List.tail_cons, startsWithDigit_eq_false hrest] at hdigit
  cases hdigit

/-- An exponent is skipped to its end. -/
theorem skipExponent_append {s : List Char} (h : IsExponent s) (hrest : Ends rest) :
    skipExponent (s ++ rest) = .ok rest := by
  cases h with
  | none =>
    rw [List.nil_append, skipExponent.eq_def]
    cases rest with
    | nil => rfl
    | cons c rest =>
      obtain ⟨_, _, he, hE⟩ := hrest c rfl
      split
      next heq => exact absurd (List.cons.inj heq).1 he
      next heq => exact absurd (List.cons.inj heq).1 hE
      next => rfl
  | @digits e sign s he hsign h =>
    have hskip := skipDigits_append h hrest.not_isDigit
    obtain rfl | rfl | rfl := hsign
    · -- Without a sign a digit comes first, which is no sign either.
      obtain ⟨hne, hs⟩ := h
      cases s with
      | nil => exact absurd rfl hne
      | cons d s =>
        have hd := hs d List.mem_cons_self
        obtain rfl | rfl := he <;>
        · rw [skipExponent.eq_def]
          simp only [List.nil_append, List.cons_append]
          split
          next heq => rw [(List.cons.inj heq).1] at hd; cases hd
          next heq => rw [(List.cons.inj heq).1] at hd; cases hd
          next => exact hskip
    · obtain rfl | rfl := he <;> exact hskip
    · obtain rfl | rfl := he <;> exact hskip

/-- A fraction and an exponent do not go on with the digits before them. -/
theorem not_isDigit_fraction {fraction exponent : List Char} (hfraction : IsFraction fraction)
    (hexponent : IsExponent exponent) (hrest : Ends rest) :
    ∀ c ∈ (fraction ++ (exponent ++ rest)).head?, c.isDigit = false := by
  cases hfraction with
  | digits h =>
    rintro _ ⟨⟩
    rfl
  | none =>
    cases hexponent with
    | none => exact hrest.not_isDigit
    | digits he hsign h =>
      rintro _ ⟨⟩
      obtain rfl | rfl := he <;> rfl

/-- An exponent that is there starts with a letter, so it does not go on with the digits before it.
    -/
theorem not_isDigit_exponent {exponent : List Char} (hexponent : IsExponent exponent)
    (hrest : Ends rest) : ∀ c ∈ (exponent ++ rest).head?, c.isDigit = false :=
  not_isDigit_fraction .none hexponent hrest

/-- A number without a sign is skipped to its end. -/
theorem skipNumber_of_isWhole {whole fraction exponent : List Char} (hwhole : IsWhole whole)
    (hfraction : IsFraction fraction) (hexponent : IsExponent exponent) (hrest : Ends rest) :
    skipNumber (whole ++ (fraction ++ (exponent ++ rest))) = .ok rest := by
  have hstop := not_isDigit_fraction hfraction hexponent hrest
  have hzero := hwhole.not_zero_digit hstop
  rw [skipNumber, if_neg (by simpa using hzero)]
  change skipDigits _ >>= _ = _
  rw [skipDigits_append hwhole.1 hstop]
  cases hfraction with
  | @digits s h =>
    change skipDigits (s ++ (exponent ++ rest)) >>= _ = _
    rw [skipDigits_append h (not_isDigit_exponent hexponent hrest)]
    exact skipExponent_append hexponent hrest
  | none =>
    have hskip := skipExponent_append hexponent hrest
    rw [List.nil_append]
    dsimp only [Bind.bind, Except.bind]
    split
    next r heq =>
      cases hexponent with
      | none => exact absurd rfl (hrest '.' (by rw [← List.nil_append rest, heq]; rfl)).2.1
      | digits he hsign h => obtain rfl | rfl := he <;> cases heq
    next => exact hskip

/-! ## Values -/

/-- A kind of texts: a value, or what stands within an array or an object that is not empty. -/
inductive Form
  | value
  | items
  | members

/-- The text is of the kind. White space may stand around the items of an array and around the
    parts of the members of an object, but not around a value itself. -/
inductive Written : Form → List Char → Prop
  | nullWord : Written .value ['n', 'u', 'l', 'l']
  | trueWord : Written .value ['t', 'r', 'u', 'e']
  | falseWord : Written .value ['f', 'a', 'l', 's', 'e']
  | number {s : List Char} (h : IsNumber s) : Written .value s
  | string {text s : List Char} (h : Spells false text s) : Written .value ('"' :: (s ++ ['"']))
  | emptyArray {space : List Char} (h : IsSpace space) : Written .value ('[' :: (space ++ [']']))
  | array {s : List Char} (h : Written .items s) : Written .value ('[' :: (s ++ [']']))
  | emptyObject {space : List Char} (h : IsSpace space) :
      Written .value ('\x7b' :: (space ++ ['\x7d']))
  | object {s : List Char} (h : Written .members s) : Written .value ('\x7b' :: (s ++ ['\x7d']))
  | item {before v after : List Char} (hbefore : IsSpace before) (h : Written .value v)
      (hafter : IsSpace after) : Written .items (before ++ (v ++ after))
  | items {before v after s : List Char} (hbefore : IsSpace before) (h : Written .value v)
      (hafter : IsSpace after) (hs : Written .items s) :
      Written .items (before ++ (v ++ (after ++ ',' :: s)))
  | member {before text key behind between v after : List Char} (hbefore : IsSpace before)
      (hkey : Spells false text key) (hbehind : IsSpace behind) (hbetween : IsSpace between)
      (h : Written .value v) (hafter : IsSpace after) :
      Written .members
        (before ++ '"' :: (key ++ '"' :: (behind ++ ':' :: (between ++ (v ++ after)))))
  | members {before text key behind between v after s : List Char} (hbefore : IsSpace before)
      (hkey : Spells false text key) (hbehind : IsSpace behind) (hbetween : IsSpace between)
      (h : Written .value v) (hafter : IsSpace after) (hs : Written .members s) :
      Written .members (before ++ '"' :: (key ++ '"' :: (behind ++ ':' ::
        (between ++ (v ++ (after ++ ',' :: s))))))

end LedBoard.Json
