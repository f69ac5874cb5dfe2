import LedBoard.Proofs.Script.Lexeme

/-!
# Writing tokens

Tokens can be written out again. An integer is spelled in decimal digits, behind any number of
zeros; a text between two quotes of a kind that it lacks; a name and a symbol by themselves; the
end of a statement as the end of a line or as a semicolon (`Spells`). Between two tokens there is
white space, and a comment may stand in front of the end of a line and at the very end (`Written`).

Not every token can be written: integers are not negative, and a text stands on one line and lacks
one of the quotes (`Token.Writable`). The scan of a source yields tokens that can.

* `tokenize_inverts_writing`: the scan of written tokens yields the tokens, whatever way of writing
  them is chosen; every source that is scanned without failure has tokens that can be written;
  and the scan fails exactly where it comes to a place at which no lexeme starts.
-/

namespace LedBoard.Script

/-! ## Spelling -/

/-- The characters are those of a name. -/
def IsName (text : List Char) : Prop :=
  ∃ c cs, text = c :: cs ∧ isNameStart c = true ∧ ∀ a ∈ cs, isNamePart a = true

/-- The token can be written. -/
def Token.Writable : Token → Prop
  | .int n => 0 ≤ n.toInt
  | .str s => '\n' ∉ s.toList ∧ ('"' ∉ s.toList ∨ '\'' ∉ s.toList)
  | .name n => IsName n.toList
  | .symbol _ => True
  | .newline => True

/-- The text spells the token. -/
inductive Spells : Token → List Char → Prop
  | int (zeros : Nat) {n : Nat} (h : n < integerLimit) :
      Spells (.int (Int64.ofNat n)) (List.replicate zeros '0' ++ Nat.toDigits 10 n)
  | str {q : Char} {s : String} (hq : isQuote q = true) (h : q ∉ s.toList)
      (hline : '\n' ∉ s.toList) : Spells (.str s) (q :: (s.toList ++ [q]))
  | name {n : String} (h : IsName n.toList) : Spells (.name n) n.toList
  | symbol (s : Symbol) : Spells (.symbol s) [s.char]
  | newline {c : Char} (h : c = '\n' ∨ c = ';') : Spells .newline [c]

/-! ## Integers -/

theorem digitsValue_append (s digits : List Char) :
    digitsValue (s ++ digits) = Nat.ofDigitChars 10 digits (digitsValue s) := by
  rw [digitsValue, List.foldl_append, Nat.ofDigitChars]
  congr 1
  funext n c
  rw [Nat.mul_comm]

theorem digitsValue_zeros (zeros : Nat) : digitsValue (List.replicate zeros '0') = 0 := by
  induction zeros with
  | zero => rfl
  | succ zeros ih => exact ih

/-- Zeros in front of the digits of a number do not change it. -/
theorem digitsValue_toDigits (zeros n : Nat) :
    digitsValue (List.replicate zeros '0' ++ Nat.toDigits 10 n) = n := by
  rw [digitsValue_append, digitsValue_zeros, Nat.ofDigitChars_toDigits (by decide) (by decide)]

theorem toInt_ofNat {n : Nat} (h : n < integerLimit) : (Int64.ofNat n).toInt = n :=
  Int64.toInt_ofNat_of_lt h

theorem ofNat_toNatClampNeg {n : Int64} (h : 0 ≤ n.toInt) :
    n.toNatClampNeg < integerLimit ∧ Int64.ofNat n.toNatClampNeg = n :=
  ⟨n.toNatClampNeg_lt, n.ofNat_toNatClampNeg (Int64.le_iff_toInt_le.2 h)⟩

/-! ## A token that is spelled -/

/-- What is spelled can be written. -/
theorem Spells.writable {t : Token} {s : List Char} (h : Spells t s) : t.Writable := by
  cases h with
  | int _ hn =>
    rw [Token.Writable, toInt_ofNat hn]
    exact Int.natCast_nonneg _
  | @str q _ hq h hline =>
    refine ⟨hline, ?_⟩
    simp only [isQuote, Bool.or_eq_true, beq_iff_eq] at hq
    rcases hq with rfl | rfl
    · exact .inl h
    · exact .inr h
  | name h => exact h
  | symbol | newline => trivial

/-- What can be written has a spelling: a text in the quotes that it does not hold. -/
theorem Token.Writable.exists_spells {t : Token} (h : t.Writable) : ∃ s, Spells t s := by
  cases t with
  | int n =>
    obtain ⟨hlimit, hn⟩ := ofNat_toNatClampNeg h
    rw [← hn]
    exact ⟨_, .int 0 hlimit⟩
  | str s =>
    obtain ⟨hline, h | h⟩ := h
    · exact ⟨_, .str rfl h hline⟩
    · exact ⟨_, .str rfl h hline⟩
  | name n => exact ⟨_, .name h⟩
  | symbol s => exact ⟨_, .symbol s⟩
  | newline => exact ⟨_, .newline (.inl rfl)⟩

/-- A token that is spelled is the lexeme that the source starts with, if a name or an integer could
    not go on behind it. -/
theorem Spells.lexeme {t : Token} {s r : List Char} (h : Spells t s)
    (hr : ∀ a ∈ r.head?, isNamePart a = false) : Lexeme (s ++ r) (some t) r := by
  cases h with
  | @int zeros n hn =>
    have hdigits : ∀ d ∈ List.replicate zeros '0' ++ Nat.toDigits 10 n, d.isDigit = true := by
      intro d hd
      rcases List.mem_append.1 hd with hd | hd
      · rw [List.eq_of_mem_replicate hd]
        rfl
      · exact Nat.isDigit_of_mem_toDigits (by decide) (by decide) hd
    have hstop : ∀ a ∈ r.head?, a.isDigit = false := fun a ha =>
      Bool.eq_false_iff.2 fun hd =>
        absurd (isNamePart_of_isDigit hd) (Bool.eq_false_iff.1 (hr a ha))
    have hlex := Lexeme.int (List.append_ne_nil_of_right_ne_nil _ Nat.toDigits_ne_nil) hdigits hstop
      (by rwa [digitsValue_toDigits])
    rwa [digitsValue_toDigits] at hlex
  | @str q s hq h hline =>
    have hlex := Lexeme.str r hq h hline
    rw [String.ofList_toList] at hlex
    rwa [List.cons_append, List.append_assoc]
  | @name n h =>
    -- For a name as for an integer it matters what is behind: the other tokens end by themselves.
    obtain ⟨c, cs, htext, hc, hcs⟩ := h
    have hlex := Lexeme.name hc hcs hr
    rwa [← htext, String.ofList_toList, ← List.cons_append, ← htext] at hlex
  | symbol s => exact .symbol s r
  | newline h => exact .newline r h

/-- The token of a lexeme can be written. -/
theorem Lexeme.writable {s r : List Char} {t : Token} (h : Lexeme s (some t) r) : t.Writable := by
  cases h with
  | newline | symbol => trivial
  | int _ _ _ hn =>
    rw [Token.Writable, toInt_ofNat hn]
    exact Int.natCast_nonneg _
  | str _ hq h hline =>
    refine (Spells.str hq ?_ ?_).writable <;> rwa [String.toList_ofList]
  | name hc h _ =>
    rw [Token.Writable, String.toList_ofList]
    exact ⟨_, _, rfl, hc, h⟩

/-- All tokens of a source can be written. -/
theorem writable_of_tokenize {s : List Char} {ts : List Token} (h : tokenize s = some ts) :
    ∀ t ∈ ts, t.Writable := by
  match s with
  | [] =>
    rw [tokenize_nil] at h
    cases h
    exact fun t ht => absurd ht List.not_mem_nil
  | c :: cs =>
    rw [tokenize_cons] at h
    obtain ⟨⟨token, r⟩, hscan, htokens⟩ := Option.bind_eq_some_iff.1 h
    obtain ⟨rest, hrest, rfl⟩ := Option.map_eq_some_iff.1 htokens
    obtain ⟨hlen, -⟩ := plain_eq_some.1 hscan
    intro t ht
    rcases List.mem_append.1 ht with ht | ht
    · rw [Option.mem_toList] at ht
      cases ht
      exact (plain_scanLexeme_eq_some_iff.1 hscan).writable
    · exact writable_of_tokenize hrest t ht
termination_by s.length
decreasing_by
  simp only [List.length_cons]
  omega

/-! ## Tokens that are written -/

/-- White space within a line. -/
def IsSpace (c : Char) : Prop := Text.isBlank c = true ∧ c ≠ '\n'

/-- There are no more tokens, or they are kept apart by white space or by a comment. -/
def Apart (ts : List Token) (s : List Char) : Prop :=
  ts = [] ∨ ∃ c r, s = c :: r ∧ (IsSpace c ∨ c = '#')

/-- The text is one way to write the tokens. -/
inductive Written : List Token → List Char → Prop
  | nil : Written [] []
  | space {ts : List Token} {r : List Char} {c : Char} (h : IsSpace c) (hr : Written ts r) :
      Written ts (c :: r)
  /-- A comment stands in front of the end of a line, or at the end. -/
  | comment {ts : List Token} {text r : List Char} (h : '\n' ∉ text)
      (hline : r = [] ∨ ∃ r', r = '\n' :: r') (hr : Written ts r) :
      Written ts ('#' :: (text ++ r))
  | token {t : Token} {ts : List Token} {s r : List Char} (h : Spells t s) (hr : Written ts r)
      (hapart : Apart ts r) : Written (t :: ts) (s ++ r)

/-- What keeps tokens apart cannot stand in a name. -/
theorem isNamePart_eq_false_of_space {c : Char} (h : IsSpace c ∨ c = '#') :
    isNamePart c = false := by
  rcases h with ⟨h, -⟩ | rfl
  · exact isNamePart_eq_false h
  · decide

/-- Where no tokens are written, there is white space or a comment. -/
theorem Written.head_nil {s : List Char} (h : Written [] s) :
    ∀ a ∈ s.head?, IsSpace a ∨ a = '#' := by
  cases h with
  | nil => exact fun a ha => absurd ha (by simp)
  | space h _ =>
    rintro _ ⟨⟩
    exact .inl h
  | comment =>
    rintro _ ⟨⟩
    exact .inr rfl

/-- No name and no integer goes on behind a token. -/
theorem Apart.head {ts : List Token} {s : List Char} (h : Apart ts s) (hs : Written ts s) :
    ∀ a ∈ s.head?, isNamePart a = false := by
  intro a ha
  rcases h with rfl | ⟨c, r, rfl, hc⟩
  · exact isNamePart_eq_false_of_space (hs.head_nil a ha)
  · cases ha
    exact isNamePart_eq_false_of_space hc

/-- The scan of written tokens yields the tokens. -/
theorem Written.tokenize_eq {ts : List Token} {s : List Char} (h : Written ts s) :
    tokenize s = some ts := by
  induction h with
  | nil => exact tokenize_nil
  | @space _ r _ h _ ih => rw [(Lexeme.blank r h.1 h.2).tokenize_eq, ih]; rfl
  | @comment _ text r h hline _ ih =>
    have hr : ∀ a ∈ r.head?, a = '\n' := by
      rcases hline with rfl | ⟨r', rfl⟩
      · exact fun a ha => absurd ha (by simp)
      · rintro _ ⟨⟩
        rfl
    rw [(Lexeme.comment h hr).tokenize_eq, ih]
    rfl
  | token h hr hapart ih => rw [(h.lexeme (hapart.head hr)).tokenize_eq, ih]; rfl

/-- Tokens that can be written are written with a space in front of each. -/
theorem exists_written {ts : List Token} (h : ∀ t ∈ ts, t.Writable) :
    ∃ s, Written ts s ∧ Apart ts s := by
  induction ts with
  | nil => exact ⟨[], .nil, .inl rfl⟩
  | cons t ts ih =>
    obtain ⟨ht, hts⟩ := List.forall_mem_cons.1 h
    obtain ⟨s, hs⟩ := ht.exists_spells
    obtain ⟨r, hr, hapart⟩ := ih hts
    have hspace : IsSpace ' ' := ⟨rfl, by decide⟩
    exact ⟨' ' :: (s ++ r), .space hspace (.token hs hr hapart), .inr ⟨' ', _, rfl, .inl hspace⟩⟩

theorem Written.writable {ts : List Token} {s : List Char} (h : Written ts s) :
    ∀ t ∈ ts, t.Writable := by
  induction h with
  | nil => exact fun t ht => absurd ht List.not_mem_nil
  | space _ _ ih | comment _ _ _ ih => exact ih
  | token h _ _ ih => exact List.forall_mem_cons.2 ⟨h.writable, ih⟩

/-- The scan of a source inverts the writing of tokens, and it fails exactly where it comes to
    a place at which no lexeme starts. -/
theorem tokenize_inverts_writing :
    (∀ ts s, Written ts s → tokenize s = some ts) ∧
      (∀ ts : List Token, (∀ t ∈ ts, t.Writable) ↔ ∃ s, Written ts s) ∧
      (∀ s ts, tokenize s = some ts →
        (∀ t ∈ ts, t.Writable) ∧ (∃ s', Written ts s') ∧
          ∀ s', Written ts s' → tokenize s' = some ts) ∧
      ∀ s, tokenize s = none ↔ ∃ r, ComesTo s r ∧ Stuck r := by
  refine ⟨fun ts s h => h.tokenize_eq, fun ts => ⟨fun h => ?_, fun ⟨_, h⟩ => h.writable⟩,
    fun s ts h => ?_, fun s => tokenize_eq_none_iff⟩
  · obtain ⟨s, hs, -⟩ := exists_written h
    exact ⟨s, hs⟩
  · have hwritable := writable_of_tokenize h
    obtain ⟨s', hs', -⟩ := exists_written hwritable
    exact ⟨hwritable, ⟨s', hs'⟩, fun s' hs' => hs'.tokenize_eq⟩

end LedBoard.Script
