import LedBoard.Terminal.Console

/-!
# What comes in, cut into pieces

The signals that come in at a console can be cut into pieces without knowing what the console
does about them: a piece is the lines of a block, if one was opened, and the signal that ends it.
Outside a block every line but one that opens a block ends its piece, and inside only a blank line
does; the other signals always end one. At the end a block may be left open.

* `Block`, `Piece`: the lines of a block, and a piece, with what makes them such;
* `cut`: the pieces of signals, and the block that is left open;
* `cut_eq_iff`: signals can be cut in this way only;
* `Piece.source?`: the code of a piece.
-/

namespace LedBoard.Terminal

/-- What a line is outside a block. -/
inductive LineKind
  | blank
  /-- A command to leave. -/
  | leaving
  /-- Another command to the console. -/
  | command
  /-- The first line of a block. -/
  | opening
  | statement
  deriving DecidableEq

/-- What a line is, according to its text without the white space around it. -/
def kindOf (line : String) : LineKind :=
  let input := Text.trimChars line.toList
  if input = [] then .blank
  else if input.head? = some '.' then
    if String.ofList input = ".exit" ∨ String.ofList input = ".quit" then .leaving else .command
  else if input.getLast? = some ':' then .opening
  else .statement

/-- After the lines of a block, or outside a block if there are none, the signal is a line that is
    added to them. -/
def Collects (block : List String) : Signal → Prop
  | .line text => if block = [] then kindOf text = .opening else kindOf text ≠ .blank
  | _ => False

instance (block : List String) : DecidablePred (Collects block)
  | .line _ => inferInstanceAs (Decidable (ite _ _ _))
  | .interrupt | .endOfInput | .unavailable => instDecidableFalse

/-- The lines of a block, or none: the first one opens it, and the others are not blank, whatever
    they look like. -/
@[ext]
structure Block where
  lines : List String
  opened : ∀ opener more, lines = opener :: more →
    kindOf opener = .opening ∧ ∀ text ∈ more, kindOf text ≠ .blank

namespace Block

/-- No block is open. -/
def none : Block := ⟨[], nofun⟩

/-- The block with a line more. -/
def add (b : Block) : (s : Signal) → Collects b.lines s → Block
  | .line text, h => ⟨b.lines ++ [text], by
      obtain ⟨lines, opened⟩ := b
      rintro opener more hlines
      cases lines with
      | nil =>
        cases hlines
        exact ⟨h, fun _ ht => absurd ht List.not_mem_nil⟩
      | cons opener' more' =>
        cases hlines
        obtain ⟨hopener, hmore⟩ := opened _ _ rfl
        refine ⟨hopener, fun t ht => ?_⟩
        rcases List.mem_append.1 ht with ht | ht
        · exact hmore t ht
        · rw [List.mem_singleton.1 ht]
          exact h⟩

/-- Every line of a block was added to those before it. -/
theorem collects (b : Block) {before after : List String} {text : String}
    (h : b.lines = before ++ text :: after) : Collects before (.line text) := by
  cases before with
  | nil => exact (b.opened _ _ h).1
  | cons opener more =>
    exact (b.opened _ _ h).2 text (List.mem_append_right _ List.mem_cons_self)

/-- The text of a block is empty if and only if there is none, since its first line is not. -/
theorem joined_eq_empty_iff (b : Block) : Text.joined "\n" b.lines = "" ↔ b.lines = [] := by
  refine ⟨fun h => ?_, fun h => by rw [h]; rfl⟩
  cases hlines : b.lines with
  | nil => rfl
  | cons opener more =>
    have hopener := (b.opened _ _ hlines).1
    rw [hlines] at h
    cases more with
    | nil =>
      cases (show opener = "" from h)
      exact absurd hopener (by decide)
    | cons text more =>
      rw [Text.joined, String.append_eq_empty_iff, String.append_eq_empty_iff] at h
      · exact absurd h.1.2 (by decide)
      · nofun

end Block

/-- The lines of a block, and a signal that ends it; or a signal outside a block. -/
@[ext]
structure Piece where
  block : Block
  signal : Signal
  ends : ¬ Collects block.lines signal

namespace Piece

/-- The signals of a piece. -/
def signals (p : Piece) : List Signal := p.block.lines.map .line ++ [p.signal]

/-- The lines of code of a piece. -/
def code (p : Piece) : List String :=
  match p.block.lines, p.signal with
  | [], .line text => if kindOf text = .statement then [text] else []
  | lines, _ => lines

/-- The source to be run, if there is one: a piece that ends in a line is run as a whole, and one
    that ends otherwise is not. -/
def source? (p : Piece) : Option String :=
  match p.signal with
  | .line _ => if p.code = [] then none else some (Text.joined "\n" p.code)
  | _ => none

/-- The piece ends the conversation, whatever comes of running code. -/
def leaves (p : Piece) : Bool :=
  match p.signal with
  | .line text => p.block.lines = [] && kindOf text = .leaving
  | .interrupt => false
  | .endOfInput | .unavailable => true

/-- A piece that ends in a line, of which only a blank one can end a block. -/
theorem eq_nil_or_blank {p : Piece} {text : String} (hsignal : p.signal = .line text) :
    p.block.lines = [] ∨ p.block.lines ≠ [] ∧ kindOf text = .blank := by
  have hends := p.ends
  rw [hsignal, Collects] at hends
  by_cases hlines : p.block.lines = []
  · exact .inl hlines
  · rw [if_neg hlines, Decidable.not_not] at hends
    exact .inr ⟨hlines, hends⟩

/-- The lines of code come first in a piece, and at most the signal that ends it comes after. -/
theorem signals_eq (p : Piece) : ∃ rest, p.signals = p.code.map .line ++ rest ∧
    (rest = [] ∨ rest = [p.signal]) := by
  rw [signals, code]
  split
  next text hlines hsignal =>
    rw [hlines, hsignal]
    split
    · exact ⟨[], rfl, .inl rfl⟩
    · exact ⟨_, rfl, .inr rfl⟩
  next => exact ⟨_, rfl, .inr rfl⟩

/-- A line of a piece is code, or blank, or a command outside a block. -/
theorem cases_of_mem {p : Piece} {text : String} (h : .line text ∈ p.signals) :
    text ∈ p.code ∨ kindOf text = .blank ∨
      p.block.lines = [] ∧ (kindOf text = .command ∨ kindOf text = .leaving) := by
  -- A line of a piece is in its block, or is the signal that ends it.
  rcases List.mem_append.1 h with h | h
  · obtain ⟨_, htext, ⟨⟩⟩ := List.mem_map.1 h
    refine .inl ?_
    rw [code]
    split
    next hlines _ =>
      rw [hlines] at htext
      exact absurd htext List.not_mem_nil
    next => exact htext
  · have hsignal := (List.mem_singleton.1 h).symm
    rcases eq_nil_or_blank hsignal with hlines | ⟨-, hblank⟩
    · have hends := p.ends
      rw [hsignal, Collects, if_pos hlines] at hends
      have hcode : p.code = if kindOf text = .statement then [text] else [] := by
        rw [code, hlines, hsignal]
      rw [hcode]
      cases hkind : kindOf text with
      | blank => exact .inr (.inl rfl)
      | leaving => exact .inr (.inr ⟨hlines, .inr rfl⟩)
      | command => exact .inr (.inr ⟨hlines, .inl rfl⟩)
      | opening => exact absurd hkind hends
      | statement => exact .inl List.mem_cons_self
    · exact .inr (.inl hblank)

/-- The source of a piece is its code as a whole. -/
theorem eq_of_source? {p : Piece} {source : String} (hsource : p.source? = some source) :
    p.code ≠ [] ∧ source = Text.joined "\n" p.code := by
  rw [source?] at hsource
  split at hsource
  next =>
    split at hsource
    next => cases hsource
    next hcode =>
      cases hsource
      exact ⟨hcode, rfl⟩
  next => cases hsource

/-- The code of a piece that is not run was in a block, which was dropped, or was still open at
    the end. -/
theorem cases_of_source? {p : Piece} (hsource : p.source? = none) :
    p.code = [] ∨ p.signal = .interrupt ∨ p.leaves = true := by
  rw [source?] at hsource
  cases hsignal : p.signal with
  | line text =>
    rw [hsignal] at hsource
    dsimp only at hsource
    split at hsource
    next hcode => exact .inl hcode
    next => cases hsource
  | interrupt => exact .inr (.inl rfl)
  | endOfInput => exact .inr (.inr (by rw [leaves, hsignal]))
  | unavailable => exact .inr (.inr (by rw [leaves, hsignal]))

end Piece

/-! ## Cutting -/

/-- The pieces of what comes in while a block is open, or none, and the block left open. -/
def cutFrom (b : Block) : List Signal → List Piece × Block
  | [] => ([], b)
  | s :: rest =>
    if h : Collects b.lines s then cutFrom (b.add s h) rest
    else ((⟨b, s, h⟩ : Piece) :: (cutFrom .none rest).1, (cutFrom .none rest).2)

/-- The pieces of signals, and the block left open. -/
def cut (signals : List Signal) : List Piece × Block := cutFrom .none signals

/-- The signals of pieces and of a block left open. -/
def uncut (c : List Piece × Block) : List Signal :=
  c.1.flatMap Piece.signals ++ c.2.lines.map .line

/-- Pieces and what is left open are the signals they were cut from. -/
theorem uncut_cutFrom (b : Block) (signals : List Signal) :
    uncut (cutFrom b signals) = b.lines.map .line ++ signals := by
  induction signals generalizing b with
  | nil => exact (List.append_nil _).symm
  | cons s rest ih =>
    rw [cutFrom]
    split
    next h =>
      cases s with
      | line text =>
        rw [ih, Block.add, List.map_append, List.append_assoc]
        rfl
      | _ => exact h.elim
    next h =>
      have hrest := ih .none
      rw [uncut, List.flatMap_cons, List.append_assoc, ← uncut, hrest, Piece.signals,
        List.append_assoc]
      rfl

/-- The lines of a block are taken together. -/
theorem cutFrom_lines (b b₀ : Block) {after : List String} (h : b.lines = b₀.lines ++ after)
    (more : List Signal) : cutFrom b₀ (after.map .line ++ more) = cutFrom b more := by
  induction after generalizing b₀ with
  | nil =>
    have hb : b₀ = b := Block.ext (h.trans (List.append_nil _)).symm
    rw [hb]
    rfl
  | cons text after ih =>
    -- The line belongs to the longer block, so it is added to the shorter one.
    have hcollects : Collects b₀.lines (.line text) := b.collects h
    rw [List.map_cons, List.cons_append, cutFrom, dif_pos hcollects]
    refine ih (b₀.add (.line text) hcollects) ?_
    rw [h, Block.add, List.append_assoc]
    rfl

theorem cut_lines (b : Block) (more : List Signal) :
    cut (b.lines.map .line ++ more) = cutFrom b more :=
  cutFrom_lines b .none rfl more

/-- Pieces that are put together are cut where they were. -/
theorem cut_uncut (pieces : List Piece) (left : Block) :
    cut (uncut (pieces, left)) = (pieces, left) := by
  induction pieces with
  | nil =>
    have hcut := cut_lines left []
    rw [List.append_nil] at hcut
    exact hcut
  | cons p rest ih =>
    have huncut : uncut (p :: rest, left) =
        p.block.lines.map .line ++ p.signal :: uncut (rest, left) := by
      rw [uncut, List.flatMap_cons, List.append_assoc, Piece.signals, List.append_assoc]
      rfl
    rw [huncut, cut_lines, cutFrom, dif_neg p.ends, ← cut, ih]

/-- Signals are cut in one way only. -/
theorem cut_eq_iff {signals : List Signal} {c : List Piece × Block} :
    cut signals = c ↔ uncut c = signals := by
  refine ⟨?_, ?_⟩
  · rintro rfl
    exact uncut_cutFrom .none signals
  · rintro rfl
    exact cut_uncut c.1 c.2

/-- In a block even what looks like a command is code. -/
example : (cut [.line "if a:", .line ".exit", .line "", .line ".help", .line "b"]).1.map
    Piece.source? = [some "if a:\n.exit", none, some "b"] := by
  decide

end LedBoard.Terminal
