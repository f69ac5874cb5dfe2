import LedBoard.Proofs.Script.Recognition
import LedBoard.Proofs.Script.Scan

/-!
# Two sources, one below the other

No lexeme and no statement goes on behind the end of a line: a comment ends there, a text may not
cross it, and no rule of the grammar takes the token that it makes. So a source that is two
sources with the end of a line between them is read as the statements of the first and then those
of the second, and it is read only if both are.

* `tokenize_append_newline`: the tokens of both sources;
* `parseProgram_append_newline`: the statements of both;
* `programOf?_append`: a source, from the two that it is made of.
-/

namespace LedBoard.Script

open Grammar

/-! ## Tokens -/

theorem isNamePart_newline : isNamePart '\n' = false := isNamePart_eq_false rfl

/-- Where no lexeme starts, the end of a line behind the source does not make one start. -/
theorem scanLexeme_append_newline {c : Char} {cs : List Char}
    (h : plain (scanLexeme c cs) = none) (t : List Char) :
    plain (scanLexeme c (cs ++ '\n' :: t)) = none := by
  have hdigit : ∀ a ∈ ('\n' :: t).head?, a.isDigit = false := by
    rintro a ⟨⟩
    rfl
  by_cases hquote : isQuote c = true
  · rw [plain_scanLexeme_quote hquote] at h ⊢
    cases hrun : cs.dropWhile (inQuotes c) with
    | nil =>
      -- The text is cut short by the end of the line.
      have hend : inQuotes c '\n' = false := by simp [inQuotes]
      have hc : '\n' ≠ c := by
        rintro rfl
        contradiction
      rw [List.dropWhile_append, hrun]
      simp [hend, hc]
    | cons q r =>
      rw [hrun] at h
      rw [dropWhile_append_of_dropWhile _ hrun]
      dsimp only at h ⊢
      split at h
      · contradiction
      · next hq => rw [if_neg hq]
  rw [scanLexeme] at h ⊢
  -- The other kinds of lexemes, of which only an integer and a symbol can be wrong.
  by_cases hend : c = '\n' ∨ c = ';'
  · rw [if_pos hend] at h
    contradiction
  rw [if_neg hend] at h ⊢
  by_cases hblank : Text.isBlank c = true
  · rw [if_pos hblank] at h
    contradiction
  rw [if_neg hblank] at h ⊢
  by_cases hcomment : c = '#'
  · rw [if_pos hcomment] at h
    contradiction
  rw [if_neg hcomment] at h ⊢
  by_cases hint : c.isDigit = true
  · rw [if_pos hint] at h ⊢
    rw [takeWhile_append_of_head hdigit]
    split at h
    · contradiction
    · rfl
  rw [if_neg hint, if_neg hquote] at h ⊢
  by_cases hname : isNameStart c = true
  · rw [if_pos hname] at h
    contradiction
  rw [if_neg hname] at h ⊢
  cases hsymbol : Symbol.ofChar? c with
  | none => rfl
  | some s =>
    rw [hsymbol] at h
    contradiction

theorem tokenize_newline (t : List Char) :
    tokenize ('\n' :: t) = (tokenize t).map (.newline :: ·) :=
  tokenize_cons_of_scan (plain_scanLexeme_blank rfl t)

/-- The end of a line between two sources is a token between theirs. -/
theorem tokenize_append_newline (s t : List Char) :
    tokenize (s ++ '\n' :: t) =
      (tokenize s).bind fun ts => (tokenize t).map (ts ++ .newline :: ·) := by
  match s with
  | [] =>
    rw [List.nil_append, tokenize_newline, tokenize_nil]
    rfl
  | c :: cs =>
    rw [List.cons_append]
    cases hscan : plain (scanLexeme c cs) with
    | none => rw [tokenize_cons, tokenize_cons, hscan, scanLexeme_append_newline hscan]; rfl
    | some x =>
      obtain ⟨token, r⟩ := x
      obtain ⟨hlen, -⟩ := plain_eq_some.1 hscan
      rw [tokenize_cons_of_scan hscan]
      have hafter : ∀ a ∈ ('\n' :: t).head?, isNamePart a = false := by
        rintro a ⟨⟩
        exact isNamePart_newline
      -- The end of a line is no part of a name, so the first lexeme stays, unless it is a comment.
      rcases scanLexeme_append hafter hscan with hscan' | ⟨rfl, rfl, hscan'⟩
      · rw [tokenize_cons_of_scan hscan', tokenize_append_newline r t]
        cases tokenize r with
        | none => rfl
        | some ts =>
          simp only [Option.bind_some, Option.map_some, Option.map_map, List.append_assoc]
          rfl
      · -- A comment ends at the end of the line.
        have hline : ('\n' :: t).dropWhile (· != '\n') = '\n' :: t :=
          List.dropWhile_cons_of_neg (by simp)
        rw [tokenize_cons_of_scan hscan', hline, tokenize_newline, tokenize_nil, Option.map_map]
        rfl
termination_by s.length
decreasing_by
  simp only [List.length_cons]
  omega

/-! ## Statements -/

theorem Grammar.Statement.newline_not_mem (s : Statement) : .newline ∉ s.tokens := by
  have hexpr : ∀ e : Expression, .newline ∉ e.tokens := fun e h =>
    absurd (List.all_eq_true.1 e.all_tokens _ h) Bool.false_ne_true
  cases s with
  | importModule name | importAll name => simp [Statement.tokens]
  | raise e | assign target h e => simp [Statement.tokens, hexpr e]
  | expr e => exact hexpr e

/-- A statement that starts in front of the end of a line ends there or before. -/
theorem Grammar.Statement.exists_rest {s : Statement} {r ts us : List Token}
    (h : ts ++ .newline :: us = s.tokens ++ r) :
    ∃ r', ts = s.tokens ++ r' ∧ r = r' ++ .newline :: us := by
  rcases List.append_eq_append_iff.1 h with ⟨more, hs, hmore⟩ | ⟨r', hts, hr⟩
  · cases more with
    | nil => exact ⟨[], by rw [hs, List.append_nil, List.append_nil], hmore.symm⟩
    | cons t more =>
      obtain ⟨rfl, -⟩ := List.cons.inj hmore
      exact absurd (hs ▸ List.mem_append_right ts List.mem_cons_self) s.newline_not_mem
  · exact ⟨r', hts, hr⟩

/-- Ends of lines in front of a program are of no account. -/
theorem parseProgram_newlines (n : Nat) (ts : List Token) :
    parseProgram (newlines n ++ ts) = parseProgram ts := by
  cases hskip : skipNewlines ts with
  | nil => rw [parseProgram_of_blank hskip, parseProgram_of_blank (by rwa [skipNewlines_newlines])]
  | cons t rest =>
    rw [parseProgram_of_statement hskip,
      parseProgram_of_statement ((skipNewlines_newlines n ts).trans hskip)]

theorem parseProgram_last (s : Statement) : parseProgram s.tokens = some [s.tree] := by
  have hlast := parseProgram_statement 0 s (r := []) .nil
  rwa [newlines, List.replicate_zero, List.nil_append, List.append_nil] at hlast

/-- A statement with the end of a line behind it is the first of a program. -/
theorem parseProgram_line (s : Statement) (ts : List Token) :
    parseProgram (s.tokens ++ .newline :: ts) = (parseProgram ts).map (s.tree :: ·) := by
  have hline := parseProgram_statement 0 s (r := .newline :: ts) (.cons rfl ts)
  rwa [newlines, List.replicate_zero, List.nil_append] at hline

/-- The tokens start with a statement, behind which there is nothing or the end of its line. -/
def StartsWithLine (ts : List Token) : Prop :=
  ∃ (s : Statement) (r : List Token), ts = s.tokens ++ r ∧ (r = [] ∨ ∃ r', r = .newline :: r')

/-- A program that does not start with the end of a line starts with the line of a statement. -/
theorem parseProgram_eq_none {t : Token} {rest : List Token} (ht : t ≠ .newline)
    (hline : ¬ StartsWithLine (t :: rest)) : parseProgram (t :: rest) = none := by
  have hskip : skipNewlines (t :: rest) = t :: rest :=
    List.dropWhile_cons_of_neg (by simpa using ht)
  rw [parseProgram_of_statement hskip]
  split
  · next s hs =>
    obtain ⟨d, hd, -⟩ := exists_statement hs
    exact absurd ⟨d, _, hd, .inl rfl⟩ hline
  · next s r hs =>
    obtain ⟨d, hd, -⟩ := exists_statement hs
    exact absurd ⟨d, _, hd, .inr ⟨r, rfl⟩⟩ hline
  · rfl

/-- What stands behind the end of a line is not needed for the line of a statement before it. -/
theorem StartsWithLine.of_append {ts us : List Token}
    (h : StartsWithLine (ts ++ .newline :: us)) : StartsWithLine ts := by
  obtain ⟨s, r, hr, hend⟩ := h
  obtain ⟨r', hts, rfl⟩ := s.exists_rest hr
  refine ⟨s, r', hts, ?_⟩
  rcases r' with _ | ⟨t, r'⟩
  · exact .inl rfl
  · rcases hend with h | ⟨_, h⟩
    · exact absurd h (by simp)
    · exact .inr ⟨r', by rw [(List.cons.inj h).1]⟩

/-- Two programs with the end of a line between them are read as the statements of both. -/
theorem parseProgram_append_newline (ts us : List Token) :
    parseProgram (ts ++ .newline :: us) =
      (parseProgram ts).bind fun ss => (parseProgram us).map (ss ++ ·) := by
  obtain ⟨n, hts⟩ := exists_newlines ts
  -- By recursion on the first program: its first line is read, and what is behind it is shorter.
  match hskip : skipNewlines ts with
  | [] =>
    rw [parseProgram_of_blank hskip, hts, hskip, List.append_nil, Option.bind_some]
    exact (parseProgram_newlines n _).trans ((parseProgram_newlines 1 us).trans
      (Option.map_id_apply ..).symm)
  | t :: rest =>
    have ht : t ≠ .newline := by
      have := List.head?_dropWhile_not (· == Token.newline) ts
      rw [← skipNewlines, hskip] at this
      simpa using this
    have hlen : (t :: rest).length ≤ ts.length := hskip ▸ length_skipNewlines ts
    rw [hskip] at hts
    rw [hts, List.append_assoc, parseProgram_newlines, parseProgram_newlines]
    by_cases hline : StartsWithLine (t :: rest)
    · obtain ⟨s, r, hr, rfl | ⟨r, rfl⟩⟩ := hline
      · -- The first program ends with this statement.
        rw [hr, List.append_nil, parseProgram_line, parseProgram_last]
        rfl
      · rw [hr, List.append_assoc, List.cons_append, parseProgram_line, parseProgram_line,
          parseProgram_append_newline r us]
        cases parseProgram r with
        | none => rfl
        | some ss =>
          simp only [Option.bind_some, Option.map_some, Option.map_map]
          rfl
    · -- Since no statement crosses the end of a line, neither source starts with one.
      have hboth : ¬ StartsWithLine (t :: (rest ++ .newline :: us)) :=
        fun h => hline (.of_append h)
      rw [List.cons_append, parseProgram_eq_none ht hboth, parseProgram_eq_none ht hline]
      rfl
termination_by ts.length
decreasing_by
  have := congrArg List.length hr
  simp only [List.length_append, List.length_cons] at this hlen
  omega

/-! ## Sources -/

/-- A source that is made of two, one below the other, is read as the statements of both. -/
theorem programOf?_append (p q : String) :
    programOf? (p ++ "\n" ++ q) =
      (programOf? p).bind fun ss => (programOf? q).map (ss ++ ·) := by
  have hchars : (p ++ "\n" ++ q).toList = p.toList ++ '\n' :: q.toList := by simp
  simp only [programOf?, Option.bind_eq_bind, hchars, tokenize_append_newline]
  cases tokenize p.toList with
  | none => rfl
  | some ts =>
    cases tokenize q.toList with
    | none => simp
    | some us =>
      simp only [Option.bind_some, Option.map_some]
      exact parseProgram_append_newline ts us

/-- A source that is made of two can be read exactly if both can. -/
theorem isSome_programOf?_append (p q : String) :
    (programOf? (p ++ "\n" ++ q)).isSome = ((programOf? p).isSome && (programOf? q).isSome) := by
  rw [programOf?_append]
  cases programOf? p with
  | none => rfl
  | some ss => cases programOf? q <;> rfl

end LedBoard.Script
