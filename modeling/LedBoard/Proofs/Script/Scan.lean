import LedBoard.Proofs.Script.Grammar
import LedBoard.Proofs.Script.Reading
import LedBoard.Proofs.Text.Runs

/-!
# White space around a source

A source can stand between white space. What stands before it makes no tokens but the ends of
the lines in it, and neither does what stands behind it: white space ends every lexeme that it
meets, except a comment, of which it may be a part up to the end of the line.

* `scanLexeme_append`: a lexeme in front of something that ends names and numbers;
* `tokenize_of_trimChars`: the tokens of a source, from those of what is within its white space.
-/

namespace LedBoard.Script

open Grammar

/-! ## Characters -/

/-- Every digit can stand in a name, so what ends names ends numbers. -/
theorem isNamePart_of_isDigit {c : Char} (h : c.isDigit = true) : isNamePart c = true := by
  have hc : c.toNat < 128 := by
    simp only [Char.isDigit, Bool.and_eq_true, decide_eq_true_eq] at h
    have := UInt32.le_iff_toNat_le.1 h.2
    exact Nat.lt_of_le_of_lt this (by decide)
  simp [isNamePart, Text.isLetterOrNumber, Text.isNumber, hc, h]

/-- The code points of white space. -/
def blankCodes : List Nat :=
  [9, 10, 11, 12, 13, 0x20, 0x85, 0xa0, 0x1680, 0x2000, 0x2001, 0x2002, 0x2003, 0x2004, 0x2005,
   0x2006, 0x2007, 0x2008, 0x2009, 0x200a, 0x2028, 0x2029, 0x202f, 0x205f, 0x3000]

theorem toNat_mem_blankCodes {c : Char} (h : Text.isBlank c = true) : c.toNat ∈ blankCodes := by
  simp only [Text.isBlank, Bool.or_eq_true, Bool.and_eq_true, decide_eq_true_eq, beq_iff_eq] at h
  simp only [blankCodes, List.mem_cons, List.not_mem_nil, or_false]
  omega

/-- White space cannot stand in a name. -/
theorem isNamePart_eq_false {c : Char} (h : Text.isBlank c = true) : isNamePart c = false := by
  have hall : ∀ n ∈ blankCodes, isNamePart (Char.ofNat n) = false := by decide +kernel
  have := hall _ (toNat_mem_blankCodes h)
  rwa [Char.ofNat_toNat] at this

/-! ## Lexemes -/

theorem plain_behindRun {token : Option Token} (kind : Char → Bool) (cs : List Char) :
    plain (some (token, behindRun kind cs)) = some (token, cs.dropWhile kind) := rfl

/-- A text goes up to the first quote of its own kind, if there is one on its line. -/
theorem plain_scanLexeme_quote {c : Char} (h : isQuote c = true) (cs : List Char) :
    plain (scanLexeme c cs) =
      match cs.dropWhile (inQuotes c) with
      | [] => none
      | q :: r =>
        if q = c then some (some (.str (String.ofList (cs.takeWhile (inQuotes c)))), r)
        else none := by
  obtain ⟨hend, hblank, hcomment, hdigit⟩ : ¬(c = '\n' ∨ c = ';') ∧ Text.isBlank c ≠ true ∧
      c ≠ '#' ∧ c.isDigit ≠ true := by
    simp only [isQuote, Bool.or_eq_true, beq_iff_eq] at h
    rcases h with rfl | rfl <;> decide
  rw [scanLexeme, if_neg hend, if_neg hblank, if_neg hcomment, if_neg hdigit, if_pos h]
  simp only [behindRun]
  split
  · next heq =>
    rw [show cs.dropWhile (inQuotes c) = [] from congrArg Subtype.val heq]
    rfl
  · next q r hlen heq =>
    rw [show cs.dropWhile (inQuotes c) = q :: r from congrArg Subtype.val heq]
    dsimp only
    split <;> rfl

/-- What is behind a text does not matter, since the text ends at its closing quote. -/
theorem scanLexeme_quote_append {c : Char} {cs r : List Char} {token : Option Token}
    (hquote : isQuote c = true) (h : plain (scanLexeme c cs) = some (token, r))
    (after : List Char) : plain (scanLexeme c (cs ++ after)) = some (token, r ++ after) := by
  rw [plain_scanLexeme_quote hquote] at h ⊢
  cases hrun : cs.dropWhile (inQuotes c) with
  | nil =>
    rw [hrun] at h
    contradiction
  | cons q r' =>
    rw [hrun] at h
    rw [dropWhile_append_of_dropWhile after hrun, takeWhile_append_of_dropWhile after hrun]
    dsimp only at h ⊢
    split at h
    · next hq =>
      cases h
      rw [if_pos hq]
    · contradiction

/-- A lexeme stays the same in front of characters of which the first cannot stand in a name,
    unless it is a comment up to the end of the source: that one goes on to the end of the
    line. -/
theorem scanLexeme_append {c : Char} {cs after r : List Char} {token : Option Token}
    (hafter : ∀ a ∈ after.head?, isNamePart a = false)
    (h : plain (scanLexeme c cs) = some (token, r)) :
    plain (scanLexeme c (cs ++ after)) = some (token, r ++ after) ∨
      token = none ∧ r = [] ∧
        plain (scanLexeme c (cs ++ after)) = some (none, after.dropWhile (· != '\n')) := by
  have hdigit : ∀ a ∈ after.head?, a.isDigit = false := fun a ha =>
    Bool.eq_false_iff.2 fun hd =>
      absurd (isNamePart_of_isDigit hd) (Bool.eq_false_iff.1 (hafter a ha))
  by_cases hquote : isQuote c = true
  · exact .inl (scanLexeme_quote_append hquote h after)
  rw [scanLexeme] at h ⊢
  -- The other kinds of lexemes, in the order in which they are tried.
  by_cases hend : c = '\n' ∨ c = ';'
  · rw [if_pos hend] at h ⊢
    cases h
    exact .inl rfl
  rw [if_neg hend] at h ⊢
  by_cases hblank : Text.isBlank c = true
  · rw [if_pos hblank] at h ⊢
    cases h
    exact .inl rfl
  rw [if_neg hblank] at h ⊢
  by_cases hcomment : c = '#'
  · rw [if_pos hcomment, plain_behindRun] at h ⊢
    cases h
    rw [List.dropWhile_append]
    split
    · next hr => exact .inr ⟨rfl, List.isEmpty_iff.1 hr, rfl⟩
    · exact .inl rfl
  rw [if_neg hcomment] at h ⊢
  left
  by_cases hint : c.isDigit = true
  · rw [if_pos hint] at h ⊢
    rw [takeWhile_append_of_head hdigit]
    split at h
    · rw [plain_behindRun] at h ⊢
      cases h
      rw [dropWhile_append_of_head hdigit]
    · contradiction
  rw [if_neg hint, if_neg hquote] at h ⊢
  by_cases hname : isNameStart c = true
  · rw [if_pos hname, plain_behindRun] at h ⊢
    cases h
    rw [takeWhile_append_of_head hafter, dropWhile_append_of_head hafter]
  rw [if_neg hname] at h ⊢
  cases hsymbol : Symbol.ofChar? c with
  | none =>
    rw [hsymbol] at h
    contradiction
  | some s =>
    rw [hsymbol] at h
    cases h
    rfl

/-! ## White space -/

/-- A character of white space is a lexeme by itself, and makes a token only if it is the end of a
    line. -/
theorem plain_scanLexeme_blank {c : Char} (h : Text.isBlank c = true) (cs : List Char) :
    plain (scanLexeme c cs) = some (if c = '\n' then some .newline else none, cs) := by
  rw [scanLexeme]
  by_cases hc : c = '\n'
  · rw [if_pos (.inl hc), if_pos hc]
    rfl
  · have hsemicolon : c ≠ ';' := by
      rintro rfl
      exact absurd h (by decide)
    rw [if_neg (by simp [hc, hsemicolon]), if_pos h, if_neg hc]
    rfl

/-- White space in front of a source makes no tokens but ends of lines. -/
theorem tokenize_blank_append {before : List Char} (h : ∀ c ∈ before, Text.isBlank c = true)
    (s : List Char) : ∃ n, tokenize (before ++ s) = (tokenize s).map (newlines n ++ ·) := by
  induction before with
  | nil => exact ⟨0, (Option.map_id_apply ..).symm⟩
  | cons c before ih =>
    obtain ⟨n, hn⟩ := ih fun d hd => h d (List.mem_cons_of_mem _ hd)
    rw [List.cons_append,
      tokenize_cons_of_scan (plain_scanLexeme_blank (h c List.mem_cons_self) _), hn]
    split
    · exact ⟨n + 1, by rw [Option.map_map]; rfl⟩
    · exact ⟨n, Option.map_id_apply ..⟩

theorem tokenize_blank {s : List Char} (h : ∀ c ∈ s, Text.isBlank c = true) :
    ∃ n, tokenize s = some (newlines n) := by
  obtain ⟨n, hn⟩ := tokenize_blank_append h []
  rw [List.append_nil, tokenize_nil, Option.map_some, List.append_nil] at hn
  exact ⟨n, hn⟩

/-- White space behind a source makes no tokens but ends of lines. -/
theorem tokenize_append_blank {s after : List Char} {ts : List Token}
    (hafter : ∀ c ∈ after, Text.isBlank c = true) (h : tokenize s = some ts) :
    ∃ n, tokenize (s ++ after) = some (ts ++ newlines n) := by
  match s with
  | [] =>
    rw [tokenize_nil] at h
    cases h
    exact tokenize_blank hafter
  | c :: cs =>
    rw [tokenize_cons] at h
    obtain ⟨⟨token, r⟩, hscan, htokens⟩ := Option.bind_eq_some_iff.1 h
    obtain ⟨rest, hrest, rfl⟩ := Option.map_eq_some_iff.1 htokens
    obtain ⟨hlen, -⟩ := plain_eq_some.1 hscan
    have hend : ∀ a ∈ after.head?, isNamePart a = false := fun a ha =>
      isNamePart_eq_false (hafter a (List.mem_of_mem_head? ha))
    rw [List.cons_append]
    -- White space is no part of a name, so the first lexeme stays, unless it is a comment.
    rcases scanLexeme_append hend hscan with hscan' | ⟨rfl, rfl, hscan'⟩
    · obtain ⟨n, hn⟩ := tokenize_append_blank hafter hrest
      rw [tokenize_cons_of_scan hscan', hn, Option.map_some, ← List.append_assoc]
      exact ⟨n, rfl⟩
    · -- A comment takes white space with it, up to the first end of a line.
      rw [tokenize_nil] at hrest
      cases hrest
      obtain ⟨n, hn⟩ := tokenize_blank (s := after.dropWhile (· != '\n')) fun a ha =>
        hafter a ((List.dropWhile_sublist _).subset ha)
      rw [tokenize_cons_of_scan hscan', hn]
      exact ⟨n, rfl⟩
termination_by s.length
decreasing_by
  simp only [List.length_cons]
  omega

theorem trimEndChars_append (s : List Char) :
    Text.trimEndChars s ++ (s.reverse.takeWhile Text.isBlank).reverse = s := by
  rw [Text.trimEndChars, ← List.reverse_append, List.takeWhile_append_dropWhile,
    List.reverse_reverse]

/-- A source has the tokens of what is within its white space, and ends of lines around them. -/
theorem tokenize_of_trimChars {s : List Char} {ts : List Token}
    (h : tokenize (Text.trimChars s) = some ts) :
    ∃ n m, tokenize s = some (newlines n ++ (ts ++ newlines m)) := by
  have hblank : ∀ t : List Char, ∀ c ∈ t.takeWhile Text.isBlank, Text.isBlank c = true :=
    fun t c hc => List.all_eq_true.1 List.all_takeWhile c hc
  have hafter : ∀ c ∈ ((s.dropWhile Text.isBlank).reverse.takeWhile Text.isBlank).reverse,
      Text.isBlank c = true := fun c hc => hblank _ c (List.mem_reverse.1 hc)
  obtain ⟨m, hm⟩ := tokenize_append_blank hafter h
  obtain ⟨n, hn⟩ := tokenize_blank_append (hblank s) (s.dropWhile Text.isBlank)
  rw [Text.trimChars, trimEndChars_append] at hm
  rw [List.takeWhile_append_dropWhile, hm, Option.map_some] at hn
  exact ⟨n, m, hn⟩

end LedBoard.Script
