import LedBoard.Proofs.Script.Soundness
import LedBoard.Proofs.Script.Unambiguity
import LedBoard.Script.Interpreter

/-!
# Reading is recognising

Scripts are read exactly where the grammar derives them, and what is read is the tree of the one
derivation. The two sides come from the modules on completeness and soundness, and that there is
one derivation from the one on unambiguity.

* `parseProgram_eq_some_iff`, `expressionOf?_eq_some_iff`: what is read, in terms of derivations;
* `reading_recognises`: the statements together.
-/

namespace LedBoard.Script

open Grammar

/-- Tokens are read as a program exactly if the grammar derives them as it. -/
theorem parseProgram_eq_some_iff {ts : List Token} {ss : List Stmt} :
    parseProgram ts = some ss ↔ ∃ d : Program, d.tokens = ts ∧ d.trees = ss := by
  constructor
  · intro h
    obtain ⟨d, hts, htrees⟩ := exists_program h
    exact ⟨d, hts.symm, htrees⟩
  · rintro ⟨d, rfl, rfl⟩
    exact read_program d

theorem parseWholeExpression_eq_some_iff {ts : List Token} {e : Expr} :
    parseWholeExpression ts = some e ↔ ∃ d : Expression, d.tokens = ts ∧ d.tree = e := by
  constructor
  · intro h
    obtain ⟨d, hts, htree⟩ := exists_wholeExpression h
    exact ⟨d, hts.symm, htree⟩
  · rintro ⟨d, rfl, rfl⟩
    exact read_wholeExpression d

/-- A source is an expression exactly if the grammar derives the tokens that are within its white
    space. -/
theorem expressionOf?_eq_some_iff {code : String} {e : Expr} :
    expressionOf? code = some e ↔
      ∃ d : Expression, tokenize (Text.trimChars code.toList) = some d.tokens ∧ d.tree = e := by
  rw [expressionOf?, Option.bind_eq_bind, Option.bind_eq_some_iff]
  constructor
  · rintro ⟨ts, hts, h⟩
    obtain ⟨d, rfl, htree⟩ := parseWholeExpression_eq_some_iff.1 h
    exact ⟨d, hts, htree⟩
  · rintro ⟨d, hts, rfl⟩
    exact ⟨d.tokens, hts, read_wholeExpression d⟩

/-- A sequence of tokens is read as a program, and a source is an expression, exactly if the
    grammar derives it; then it has one derivation, and what is read is the tree of that one. -/
theorem reading_recognises :
    (∀ ts : List Token,
      ((parseProgram ts).isSome = true ↔ ∃ d : Program, d.tokens = ts) ∧
      ∀ ss, parseProgram ts = some ss ↔ ∃ d : Program, d.tokens = ts ∧ d.trees = ss) ∧
    (∀ d d' : Program, d.tokens = d'.tokens → d = d') ∧
    (∀ {σ : Type} (i : Interpreter σ) (code : String) (w : Supply × σ),
      ∃ b, engine.compilesAsExpression i code w = .ok ((b, i), w) ∧
        (b = true ↔ ∃ ts, tokenize (Text.trimChars code.toList) = some ts ∧
          ∃ d : Expression, d.tokens = ts)) ∧
    (∀ code e, expressionOf? code = some e ↔
      ∃ d : Expression, tokenize (Text.trimChars code.toList) = some d.tokens ∧ d.tree = e) ∧
    ∀ d d' : Expression, d.tokens = d'.tokens → d = d' := by
  refine ⟨fun ts => ⟨?_, fun ss => parseProgram_eq_some_iff⟩, program_unique,
    fun i code w => ⟨(expressionOf? code).isSome, rfl, ?_⟩, fun code e =>
    expressionOf?_eq_some_iff, fun d d' h => (expression_unique d d' .nil .nil (by rw [h])).1⟩
  · rw [Option.isSome_iff_exists]
    constructor
    · rintro ⟨ss, h⟩
      obtain ⟨d, hts, -⟩ := parseProgram_eq_some_iff.1 h
      exact ⟨d, hts⟩
    · rintro ⟨d, rfl⟩
      exact ⟨d.trees, read_program d⟩
  · rw [Option.isSome_iff_exists]
    constructor
    · rintro ⟨e, h⟩
      obtain ⟨d, hts, -⟩ := expressionOf?_eq_some_iff.1 h
      exact ⟨d.tokens, hts, d, rfl⟩
    · rintro ⟨_, hts, d, rfl⟩
      exact ⟨d.tree, expressionOf?_eq_some_iff.2 ⟨d, hts, rfl⟩⟩

end LedBoard.Script
