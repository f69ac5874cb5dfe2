import LedBoard.Proofs.Script.Scan

/-!
# Lexemes

What a source may start with, apart from any way of reading it: the end of a statement, white
space, a comment, an integer, a text, a name or a symbol (`Lexeme`). A run of digits or of the
characters of a name is a lexeme only if it does not go on behind it. A source that is not empty and
starts with no lexeme is of one of three kinds (`Stuck`): it starts with an integer that is too
great, with a quote that is not closed on its line, or with a character that starts no lexeme.

No two kinds of lexemes start with the same character, white space and the ends of lines apart, so
a source starts with one lexeme only, and the order in which a scan tries the kinds does not matter.

* `plain_scanLexeme_eq_some_iff`, `plain_scanLexeme_eq_none_iff`: the scan of one lexeme takes the
  one that the source starts with, and fails where there is none;
* `tokenize_eq_none_iff`: the scan of a source fails where it comes to a place without a lexeme.
-/

namespace LedBoard.Script

/-! ## What a source starts with -/

/-- Integers are less than this, which is 2^63. -/
def integerLimit : Nat := 9223372036854775808

theorem integer?_eq (digits : List Char) :
    integer? digits =
      if digitsValue digits < integerLimit then some (Int64.ofNat (digitsValue digits))
      else none := rfl

/-- The character starts a lexeme of some kind. -/
def StartsLexeme (c : Char) : Prop :=
  c = '\n' ∨ c = ';' ∨ Text.isBlank c = true ∨ c = '#' ∨ c.isDigit = true ∨ isQuote c = true ∨
    isNameStart c = true ∨ ∃ s : Symbol, s.char = c

/-- The source starts with a lexeme that makes this token, or none, and this is behind it. -/
inductive Lexeme : List Char → Option Token → List Char → Prop
  | newline {c : Char} (r : List Char) (h : c = '\n' ∨ c = ';') :
      Lexeme (c :: r) (some .newline) r
  | blank {c : Char} (r : List Char) (h : Text.isBlank c = true) (hc : c ≠ '\n') :
      Lexeme (c :: r) none r
  /-- A comment goes up to the end of its line. -/
  | comment {text r : List Char} (h : '\n' ∉ text) (hr : ∀ a ∈ r.head?, a = '\n') :
      Lexeme ('#' :: (text ++ r)) none r
  | int {digits r : List Char} (hne : digits ≠ []) (h : ∀ d ∈ digits, d.isDigit = true)
      (hr : ∀ a ∈ r.head?, a.isDigit = false) (hn : digitsValue digits < integerLimit) :
      Lexeme (digits ++ r) (some (.int (Int64.ofNat (digitsValue digits)))) r
  | str {q : Char} {text : List Char} (r : List Char) (hq : isQuote q = true) (h : q ∉ text)
      (hline : '\n' ∉ text) :
      Lexeme (q :: (text ++ q :: r)) (some (.str (String.ofList text))) r
  | name {c : Char} {text r : List Char} (hc : isNameStart c = true)
      (h : ∀ a ∈ text, isNamePart a = true) (hr : ∀ a ∈ r.head?, isNamePart a = false) :
      Lexeme (c :: (text ++ r)) (some (.name (String.ofList (c :: text)))) r
  | symbol (s : Symbol) (r : List Char) : Lexeme (s.char :: r) (some (.symbol s)) r

/-- The source starts with no lexeme, although it is not empty. -/
inductive Stuck : List Char → Prop
  | tooGreat {digits r : List Char} (hne : digits ≠ []) (h : ∀ d ∈ digits, d.isDigit = true)
      (hr : ∀ a ∈ r.head?, a.isDigit = false) (hn : integerLimit ≤ digitsValue digits) :
      Stuck (digits ++ r)
  /-- There is no quote of the same kind before the end of the line. -/
  | unclosed {q : Char} {text r : List Char} (hq : isQuote q = true) (h : q ∉ text)
      (hline : '\n' ∉ text) (hr : ∀ a ∈ r.head?, a = '\n') : Stuck (q :: (text ++ r))
  | unknown {c : Char} (r : List Char) (h : ¬ StartsLexeme c) : Stuck (c :: r)

/-! ## The scan of one lexeme, kind by kind -/

theorem isBlank_eq_false {c : Char} (h : isNamePart c = true) : Text.isBlank c = false :=
  Bool.eq_false_iff.2 fun hblank => absurd h (Bool.eq_false_iff.1 (isNamePart_eq_false hblank))

/-- What starts a name may stand within one. -/
theorem isNamePart_of_isNameStart {c : Char} (h : isNameStart c = true) :
    isNamePart c = true := by
  simp only [isNameStart, Bool.or_eq_true] at h
  rcases h with h | h
  · simp [isNamePart, Text.isLetterOrNumber_of_isLetter h]
  · simp [isNamePart, h]

/-- No digit starts a name. -/
theorem isDigit_eq_false {c : Char} (h : isNameStart c = true) : c.isDigit = false := by
  rw [Bool.eq_false_iff]
  intro hdigit
  have hcode : ∀ n : Fin 10, isNameStart (Char.ofNat (48 + n)) = false := by decide
  have hlow : 48 ≤ c.toNat ∧ c.toNat ≤ 57 := by
    simp only [Char.isDigit, Bool.and_eq_true, decide_eq_true_eq] at hdigit
    exact ⟨UInt32.le_iff_toNat_le.1 hdigit.1, UInt32.le_iff_toNat_le.1 hdigit.2⟩
  have hc := hcode ⟨c.toNat - 48, by omega⟩
  rw [show 48 + (c.toNat - 48) = c.toNat by omega, Char.ofNat_toNat] at hc
  exact absurd (hc.symm.trans h) Bool.false_ne_true

/-- A character that can stand in a name starts no lexeme of the kinds that are tried first. -/
theorem ne_of_isNamePart {c : Char} (h : isNamePart c = true) :
    ¬(c = '\n' ∨ c = ';') ∧ Text.isBlank c ≠ true ∧ c ≠ '#' ∧ isQuote c ≠ true := by
  refine ⟨?_, Bool.eq_false_iff.1 (isBlank_eq_false h), ?_, ?_⟩
  · rintro (rfl | rfl) <;> exact absurd h (by decide)
  · rintro rfl
    exact absurd h (by decide)
  · intro hquote
    simp only [isQuote, Bool.or_eq_true, beq_iff_eq] at hquote
    rcases hquote with rfl | rfl <;> exact absurd h (by decide)

/-- A digit starts an integer, which goes as far as there are digits. -/
theorem plain_scanLexeme_digit {c : Char} (h : c.isDigit = true) (cs : List Char) :
    plain (scanLexeme c cs) =
      (integer? (c :: cs.takeWhile Char.isDigit)).map fun n =>
        (some (.int n), cs.dropWhile Char.isDigit) := by
  obtain ⟨hend, hblank, hcomment, -⟩ := ne_of_isNamePart (isNamePart_of_isDigit h)
  rw [scanLexeme, if_neg hend, if_neg hblank, if_neg hcomment, if_pos h]
  cases integer? (c :: cs.takeWhile Char.isDigit) <;> rfl

/-- A name goes as far as there are characters that can stand in one. -/
theorem plain_scanLexeme_name {c : Char} (h : isNameStart c = true) (cs : List Char) :
    plain (scanLexeme c cs) =
      some (some (.name (String.ofList (c :: cs.takeWhile isNamePart))),
        cs.dropWhile isNamePart) := by
  obtain ⟨hend, hblank, hcomment, hquote⟩ := ne_of_isNamePart (isNamePart_of_isNameStart h)
  rw [scanLexeme, if_neg hend, if_neg hblank, if_neg hcomment,
    if_neg (Bool.eq_false_iff.1 (isDigit_eq_false h)), if_neg hquote, if_pos h, plain_behindRun]

theorem plain_scanLexeme_comment (cs : List Char) :
    plain (scanLexeme '#' cs) = some (none, cs.dropWhile (· != '\n')) := by
  rw [scanLexeme, if_neg (by decide), if_neg (by decide), if_pos rfl, plain_behindRun]

theorem plain_scanLexeme_symbol (s : Symbol) (cs : List Char) :
    plain (scanLexeme s.char cs) = some (some (.symbol s), cs) := by
  cases s <;> rfl

/-- The end of a line and a semicolon are the same token. -/
theorem plain_scanLexeme_newline {c : Char} (h : c = '\n' ∨ c = ';') (cs : List Char) :
    plain (scanLexeme c cs) = some (some .newline, cs) := by
  rw [scanLexeme, if_pos h]
  rfl

theorem Symbol.ofChar?_eq_none {c : Char} (h : ∀ s : Symbol, s.char ≠ c) :
    Symbol.ofChar? c = none := by
  rw [Symbol.ofChar?, List.find?_eq_none]
  exact fun s _ => by simpa using h s

/-- A character that starts no lexeme is not scanned. -/
theorem plain_scanLexeme_unknown {c : Char} (h : ¬ StartsLexeme c) (cs : List Char) :
    plain (scanLexeme c cs) = none := by
  simp only [StartsLexeme, not_or, not_exists] at h
  obtain ⟨hline, hsemicolon, hblank, hcomment, hdigit, hquote, hname, hsymbol⟩ := h
  rw [scanLexeme, if_neg (not_or.2 ⟨hline, hsemicolon⟩), if_neg hblank, if_neg hcomment,
    if_neg hdigit, if_neg hquote, if_neg hname, Symbol.ofChar?_eq_none hsymbol]
  rfl

/-- The characters of a text do not end it. -/
theorem inQuotes_of_mem {q : Char} {text : List Char} (h : q ∉ text) (hline : '\n' ∉ text) :
    ∀ a ∈ text, inQuotes q a = true := by
  intro a ha
  have hq : a ≠ q := fun hq => h (hq ▸ ha)
  have hn : a ≠ '\n' := fun hn => hline (hn ▸ ha)
  simp [inQuotes, hq, hn]

/-! ## The scan of one lexeme -/

/-- The scan takes the lexeme that a source starts with. -/
theorem Lexeme.scan {c : Char} {cs : List Char} {t : Option Token} {r : List Char}
    (h : Lexeme (c :: cs) t r) : plain (scanLexeme c cs) = some (t, r) := by
  -- A lexeme may be a run in front of something, which is no pattern of a first character.
  generalize hs : c :: cs = s at h
  cases h with
  | newline _ h =>
    cases hs
    exact plain_scanLexeme_newline h _
  | blank _ h hc =>
    cases hs
    rw [plain_scanLexeme_blank h, if_neg hc]
  | @comment text _ h hr =>
    cases hs
    have hrun : ∀ a ∈ text, (a != '\n') = true := fun a ha => by
      simpa using fun hn : a = '\n' => h (hn ▸ ha)
    rw [plain_scanLexeme_comment, dropWhile_run hrun fun a ha => by simp [hr a ha]]
  | @int digits _ hne h hr hn =>
    cases digits with
    | nil => exact absurd rfl hne
    | cons d digits =>
      cases hs
      obtain ⟨hd, hdigits⟩ := List.forall_mem_cons.1 h
      rw [List.append_eq, plain_scanLexeme_digit hd, takeWhile_run hdigits hr,
        dropWhile_run hdigits hr, integer?_eq, if_pos hn]
      rfl
  | str _ hq h hline =>
    cases hs
    have hrun := inQuotes_of_mem h hline
    have hstop : ∀ a ∈ (c :: r).head?, inQuotes c a = false := by
      rintro _ ⟨⟩
      simp [inQuotes]
    rw [plain_scanLexeme_quote hq, dropWhile_run hrun hstop, takeWhile_run hrun hstop]
    exact if_pos rfl
  | name hc h hr =>
    cases hs
    rw [plain_scanLexeme_name hc, takeWhile_run h hr, dropWhile_run h hr]
  | symbol s _ =>
    cases hs
    exact plain_scanLexeme_symbol s _

/-- The scan fails where a source starts with no lexeme. -/
theorem Stuck.scan {c : Char} {cs : List Char} (h : Stuck (c :: cs)) :
    plain (scanLexeme c cs) = none := by
  generalize hs : c :: cs = s at h
  cases h with
  | @tooGreat digits _ hne h hr hn =>
    cases digits with
    | nil => exact absurd rfl hne
    | cons d digits =>
      cases hs
      obtain ⟨hd, hdigits⟩ := List.forall_mem_cons.1 h
      rw [List.append_eq, plain_scanLexeme_digit hd, takeWhile_run hdigits hr, integer?_eq,
        if_neg (Nat.not_lt_of_le hn)]
      rfl
  | @unclosed q text r hq h hline hr =>
    cases hs
    have hstop : ∀ a ∈ r.head?, inQuotes c a = false := fun a ha => by simp [inQuotes, hr a ha]
    rw [plain_scanLexeme_quote hq, dropWhile_run (inQuotes_of_mem h hline) hstop]
    cases r with
    | nil => rfl
    | cons a r =>
      have ha : a ≠ c := by
        rintro rfl
        rw [hr a rfl] at hq
        contradiction
      exact if_neg ha
  | unknown _ h =>
    cases hs
    exact plain_scanLexeme_unknown h _

/-- Behind a quote there is a text, or the quote is not closed. -/
theorem text_or_stuck {q : Char} (hq : isQuote q = true) (cs : List Char) :
    (∃ t r, Lexeme (q :: cs) t r) ∨ Stuck (q :: cs) := by
  have hrun : ∀ a ∈ cs.takeWhile (inQuotes q), inQuotes q a = true :=
    List.all_eq_true.1 List.all_takeWhile
  have hmem : q ∉ cs.takeWhile (inQuotes q) := fun h => by simpa [inQuotes] using hrun q h
  have hline : '\n' ∉ cs.takeWhile (inQuotes q) := fun h => by simpa [inQuotes] using hrun _ h
  have hstop := head?_dropWhile (inQuotes q) cs
  rw [← List.takeWhile_append_dropWhile (p := inQuotes q) (l := cs)]
  cases hbehind : cs.dropWhile (inQuotes q) with
  | nil => exact .inr (.unclosed hq hmem hline fun a ha => absurd ha (by simp))
  | cons b r =>
    by_cases hb : b = q
    · rw [hb]
      exact .inl ⟨_, _, .str r hq hmem hline⟩
    · refine .inr (.unclosed hq hmem hline ?_)
      rw [hbehind] at hstop
      rintro _ ⟨⟩
      simpa [inQuotes, hb] using hstop b rfl

/-- A source that is not empty starts with a lexeme, or it is stuck. -/
theorem exists_lexeme_or_stuck (c : Char) (cs : List Char) :
    (∃ t r, Lexeme (c :: cs) t r) ∨ Stuck (c :: cs) := by
  by_cases hstart : StartsLexeme c
  · -- The first character tells the kind; only an integer and a text can be wrong further on.
    rcases hstart with h | h | h | rfl | h | h | h | ⟨s, rfl⟩
    · exact .inl ⟨_, _, .newline cs (.inl h)⟩
    · exact .inl ⟨_, _, .newline cs (.inr h)⟩
    · by_cases hc : c = '\n'
      · exact .inl ⟨_, _, .newline cs (.inl hc)⟩
      · exact .inl ⟨_, _, .blank cs h hc⟩
    · have hrun : '\n' ∉ cs.takeWhile (· != '\n') := fun hn => by
        simpa using List.all_eq_true.1 List.all_takeWhile _ hn
      have hlex := Lexeme.comment hrun fun a ha => by
        simpa using head?_dropWhile (· != '\n') cs a ha
      rw [List.takeWhile_append_dropWhile] at hlex
      exact .inl ⟨_, _, hlex⟩
    · have hrun : ∀ d ∈ c :: cs.takeWhile Char.isDigit, d.isDigit = true :=
        List.forall_mem_cons.2 ⟨h, List.all_eq_true.1 List.all_takeWhile⟩
      have hcs : c :: cs = (c :: cs.takeWhile Char.isDigit) ++ cs.dropWhile Char.isDigit := by
        rw [List.cons_append, List.takeWhile_append_dropWhile]
      rw [hcs]
      by_cases hn : digitsValue (c :: cs.takeWhile Char.isDigit) < integerLimit
      · exact .inl ⟨_, _, .int (List.cons_ne_nil _ _) hrun (head?_dropWhile _ cs) hn⟩
      · exact .inr (.tooGreat (List.cons_ne_nil _ _) hrun (head?_dropWhile _ cs)
          (Nat.le_of_not_lt hn))
    · exact text_or_stuck h cs
    · have hrun : ∀ a ∈ cs.takeWhile isNamePart, isNamePart a = true :=
        List.all_eq_true.1 List.all_takeWhile
      have hlex := Lexeme.name h hrun (head?_dropWhile _ cs)
      rw [List.takeWhile_append_dropWhile] at hlex
      exact .inl ⟨_, _, hlex⟩
    · exact .inl ⟨_, _, .symbol s cs⟩
  · exact .inr (.unknown cs hstart)

/-- The scan takes a lexeme exactly if the source starts with it. -/
theorem plain_scanLexeme_eq_some_iff {c : Char} {cs : List Char} {t : Option Token}
    {r : List Char} : plain (scanLexeme c cs) = some (t, r) ↔ Lexeme (c :: cs) t r := by
  refine ⟨fun h => ?_, Lexeme.scan⟩
  rcases exists_lexeme_or_stuck c cs with ⟨t', r', hlex⟩ | hstuck
  · rw [hlex.scan] at h
    cases h
    exact hlex
  · rw [hstuck.scan] at h
    contradiction

/-- The scan fails exactly if the source starts with no lexeme. -/
theorem plain_scanLexeme_eq_none_iff {c : Char} {cs : List Char} :
    plain (scanLexeme c cs) = none ↔ Stuck (c :: cs) := by
  refine ⟨fun h => ?_, Stuck.scan⟩
  rcases exists_lexeme_or_stuck c cs with ⟨t, r, hlex⟩ | hstuck
  · rw [hlex.scan] at h
    contradiction
  · exact hstuck

/-! ## The scan of a source -/

/-- The scan of the source `s`, from lexeme to lexeme, comes to the place where `r` is left. -/
inductive ComesTo : List Char → List Char → Prop
  | refl (s : List Char) : ComesTo s s
  | step {s s' r : List Char} {t : Option Token} (h : Lexeme s t s') (hr : ComesTo s' r) :
      ComesTo s r

theorem Stuck.ne_nil {s : List Char} (h : Stuck s) : s ≠ [] := by
  rintro rfl
  generalize hs : [] = s at h
  cases h with
  | tooGreat hne _ _ _ => exact absurd (List.append_eq_nil_iff.1 hs.symm).1 hne
  | unclosed | unknown => contradiction

theorem Lexeme.ne_nil {s r : List Char} {t : Option Token} (h : Lexeme s t r) : s ≠ [] := by
  rintro rfl
  generalize hs : [] = s at h
  cases h with
  | int hne _ _ _ => exact absurd (List.append_eq_nil_iff.1 hs.symm).1 hne
  | newline | blank | comment | str | name | symbol => contradiction

/-- A lexeme in front of a source puts its token in front of the tokens of the source. -/
theorem Lexeme.tokenize_eq {s r : List Char} {t : Option Token} (h : Lexeme s t r) :
    tokenize s = (tokenize r).map (t.toList ++ ·) := by
  cases s with
  | nil => exact absurd rfl h.ne_nil
  | cons c cs => exact tokenize_cons_of_scan h.scan

/-- The scan of a source fails exactly if it comes to a place where it is stuck. -/
theorem tokenize_eq_none_iff {s : List Char} :
    tokenize s = none ↔ ∃ r, ComesTo s r ∧ Stuck r := by
  constructor
  · -- By the length of the source: behind every lexeme there is less of it.
    intro h
    match s with
    | [] =>
      rw [tokenize_nil] at h
      contradiction
    | c :: cs =>
      rcases exists_lexeme_or_stuck c cs with ⟨t, s', hlex⟩ | hstuck
      · obtain ⟨hlen, -⟩ := plain_eq_some.1 hlex.scan
        rw [hlex.tokenize_eq, Option.map_eq_none_iff] at h
        obtain ⟨r, hr, hstuck⟩ := tokenize_eq_none_iff.1 h
        exact ⟨r, .step hlex hr, hstuck⟩
      · exact ⟨_, .refl _, hstuck⟩
  · rintro ⟨r, hr, hstuck⟩
    induction hr with
    | refl s =>
      cases s with
      | nil => exact absurd rfl hstuck.ne_nil
      | cons c cs => rw [tokenize_cons, hstuck.scan]; rfl
    | step hlex _ ih => rw [hlex.tokenize_eq, ih hstuck]; rfl
termination_by s.length
decreasing_by
  simp only [List.length_cons]
  omega

end LedBoard.Script
