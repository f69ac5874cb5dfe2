import LedBoard.Proofs.Engine.Protocol
import LedBoard.Proofs.Terminal.Pieces

/-!
# Conversations at a console

What a console asks, runs, clears and says is put down in a log (`Console.watched`); nothing else
changes by this. A conversation then goes through the pieces of the signals one after the other:
it asks for a line with the prompt that shows whether a block is open, runs the source of a piece
if there is one, and stops at the first piece that leaves or whose source asked to end. What comes
after that is not read.

* `Piece.log`: what a piece adds to the log;
* `Held`: a conversation over pieces, up to the first that stops it;
* `converse_held`: every conversation is such a one;
* `conversation_law`: the statements together.
-/

namespace LedBoard.Terminal

variable {W α : Type}

/-- What a console does. -/
inductive Entry
  | asked (prompt : String)
  /-- Code was run, and asked to end or not. -/
  | executed (code : String) (ended : Bool)
  | cleared
  | told (notice : Notice)
  deriving DecidableEq

/-- The source that was run. -/
def Entry.source? : Entry → Option String
  | .executed code _ => some code
  | _ => none

/-- What is done is put down in a log. -/
def logged (entry : α → Entry) (m : Run W α) : Run (List Entry × W) α := fun (log, w) =>
  (m w).map fun (a, w) => (a, (log ++ [entry a], w))

/-- The console under watch. -/
def Console.watched (c : Console W) : Console (List Entry × W) where
  ask prompt := logged (fun _ => .asked prompt) (c.ask prompt)
  execute code := logged (.executed code) (c.execute code)
  clear := logged (fun _ => .cleared) c.clear
  tell notice := logged (fun _ => .told notice) (c.tell notice)

/-- A logged run enters what it has returned. -/
theorem logged_log (entry : α → Entry) {m : Run W α} {s s' : List Entry × W} {a : α}
    (h : logged entry m s = .ok (a, s')) : s'.1 = s.1 ++ [entry a] := by
  rw [logged] at h
  cases hm : m s.2 with
  | error crash =>
    rw [hm] at h
    cases h
  | ok x =>
    rw [hm] at h
    cases h
    rfl

/-! ## What a piece adds -/

/-- What a command to the console does. -/
def commandEntry (input : String) : Entry :=
  if input = ".help" then .told .help
  else if input = ".clear" then .cleared
  else .told (.unknownCommand input)

namespace Piece

/-- What a piece that runs nothing does. -/
def said (p : Piece) : List Entry :=
  match p.signal with
  | .line text => if kindOf text = .command then [commandEntry (Text.trim text)] else []
  | .interrupt => [.told (if p.block.lines = [] then .interrupted else .blockDropped)]
  | .endOfInput => [.told .ended]
  | .unavailable => [.told .noTerminal]

/-- What is done about a piece, if running code is answered so. -/
def entries (p : Piece) (ended : Bool) : List Entry :=
  match p.source? with
  | some code => [.executed code ended]
  | none => p.said

/-- The piece ends the conversation, if running code is answered so. -/
def stops (p : Piece) (ended : Bool) : Bool := p.leaves || p.source?.isSome && ended

end Piece

/-- The prompts for the lines of a block. -/
def asks : List String → List Entry
  | [] => []
  | _ :: more => .asked ">>> " :: more.map fun _ => .asked "... "

/-- All that a piece adds to the log: a line is asked for with the second prompt if and only if a
    block is open. -/
def Piece.log (p : Piece) (ended : Bool) : List Entry :=
  asks p.block.lines ++ .asked (if p.block.lines = [] then ">>> " else "... ") :: p.entries ended

/-- A conversation over pieces, which leave a block open, adds this to the log and leaves these
    signals: one piece after the other is answered, up to the first that stops. -/
inductive Held : List Piece → Block → List Entry → List Signal → Prop
  /-- Nothing more comes in. -/
  | exhausted (left : Block) : Held [] left (asks left.lines) []
  | stopped {p : Piece} {ended : Bool} (h : p.stops ended = true) (later : List Piece)
      (left : Block) : Held (p :: later) left (p.log ended) (uncut (later, left))
  | next {p : Piece} {ended : Bool} (h : p.stops ended = false) {later : List Piece} {left : Block}
      {xs : List Entry} {rest : List Signal} (hlater : Held later left xs rest) :
      Held (p :: later) left (p.log ended ++ xs) rest

/-! ## Turns -/

/-- What a reaction adds to the log, if running code is answered so. -/
def Reaction.entries (ended : Bool) : Reaction → List Entry
  | .nothing | .collect _ => []
  | .run code => [.executed code ended]
  | .clear => [.cleared]
  | .tell notice => [.told notice]
  | .stop notice => notice.toList.map .told

/-- The lines of the block that is open after a reaction, unless the console stops. -/
def Reaction.next (block : List String) (ended : Bool) : Reaction → Option (List String)
  | .collect text => some (block ++ [text])
  | .run _ => if ended then none else some []
  | .stop _ => none
  | .nothing | .clear | .tell _ => some []

/-- What a reaction enters depends on what the code it runs asks for, if it runs any, and so does
    what becomes of the block. -/
theorem perform_log {c : Console W} {block : List String} {r : Reaction}
    {s s' : List Entry × W} {next : Option (List String)}
    (h : c.watched.perform block r s = .ok (next, s')) :
    ∃ ended, s'.1 = s.1 ++ r.entries ended ∧ next = r.next block ended := by
  -- Only code that is run tells whether it asked to end; for the rest any answer will do.
  cases r with
  | nothing | collect =>
    cases h
    exact ⟨false, (List.append_nil _).symm, rfl⟩
  | run code =>
    obtain ⟨ended, s₁, hrun, h⟩ := Run.exists_of_bind h
    refine ⟨ended, ?_, ?_⟩
    · cases ended <;> cases h <;> exact logged_log (.executed code) hrun
    · cases ended <;> cases h <;> rfl
  | clear =>
    obtain ⟨_, s₁, hclear, h⟩ := Run.exists_of_bind h
    cases h
    exact ⟨false, logged_log (fun _ => .cleared) hclear, rfl⟩
  | tell notice =>
    obtain ⟨_, s₁, htell, h⟩ := Run.exists_of_bind h
    cases h
    exact ⟨false, logged_log (fun _ => .told notice) htell, rfl⟩
  | stop notice =>
    obtain ⟨_, s₁, htell, h⟩ := Run.exists_of_bind h
    cases h
    cases notice with
    | none =>
      cases htell
      exact ⟨false, (List.append_nil _).symm, rfl⟩
    | some notice => exact ⟨false, logged_log (fun _ => .told notice) htell, rfl⟩

/-- A turn asks with the prompt of the block, and then does what the signal calls for. -/
theorem turn_log {c : Console W} {block : List String} {signal : Signal} {s s' : List Entry × W}
    {next : Option (List String)} (h : c.watched.turn block signal s = .ok (next, s')) :
    ∃ ended, s'.1 = s.1 ++ .asked (prompt block) :: (react block signal).entries ended ∧
      next = (react block signal).next block ended := by
  obtain ⟨_, s₁, hask, h⟩ := Run.exists_of_bind h
  obtain ⟨ended, hlog, hnext⟩ := perform_log h
  refine ⟨ended, ?_, hnext⟩
  rw [hlog, logged_log (fun _ => .asked (prompt block)) hask, List.append_assoc]
  rfl

/-! ## Reactions to lines and pieces -/

/-- Outside a block. -/
theorem reactToLine_nil (text : String) :
    reactToLine [] text = match kindOf text with
      | .blank => .nothing
      | .leaving => .stop none
      | .command => command (Text.trim text)
      | .opening => .collect text
      | .statement => .run text := by
  rw [reactToLine, kindOf, Text.trim]
  generalize Text.trimChars text.toList = input
  by_cases hblank : input = []
  · rw [hblank]
    rfl
  by_cases hcommand : input.head? = some '.'
  · by_cases hleaves : String.ofList input = ".exit" ∨ String.ofList input = ".quit" <;>
      simp [hblank, hcommand, hleaves, command]
  · by_cases hopening : input.getLast? = some ':' <;> simp [hblank, hcommand, hopening]

/-- In a block. -/
theorem reactToLine_cons (opener : String) (more : List String) (text : String) :
    reactToLine (opener :: more) text =
      if kindOf text = .blank then .run (Text.joined "\n" (opener :: more)) else .collect text := by
  rw [reactToLine, kindOf]
  generalize Text.trimChars text.toList = input
  by_cases hblank : input = []
  · rw [hblank]
    rfl
  by_cases hcommand : input.head? = some '.'
  · by_cases hleaves : String.ofList input = ".exit" ∨ String.ofList input = ".quit" <;>
      simp [hblank, hcommand, hleaves]
  · by_cases hopening : input.getLast? = some ':' <;> simp [hblank, hcommand, hopening]

/-- A line that is collected is added to the block, and stops nothing. -/
theorem react_collects {block : List String} {signal : Signal} (h : Collects block signal) :
    ∃ text, signal = .line text ∧ react block signal = .collect text := by
  cases signal with
  | line text =>
    refine ⟨text, rfl, ?_⟩
    rw [Collects] at h
    rw [react]
    cases block with
    | nil =>
      rw [if_pos rfl] at h
      rw [reactToLine_nil, h]
    | cons opener more =>
      rw [if_neg (List.cons_ne_nil _ _)] at h
      rw [reactToLine_cons, if_neg h]
  | _ => exact h.elim

/-- A command that does not leave tells or clears something, and the console goes on outside a
    block. -/
theorem command_reaction {input : String} (hinput : ¬ (input = ".exit" ∨ input = ".quit"))
    (ended : Bool) (block : List String) :
    (command input).entries ended = [commandEntry input] ∧
      (command input).next block ended = some [] := by
  rw [command, if_neg hinput, commandEntry]
  split
  · exact ⟨rfl, rfl⟩
  · split <;> exact ⟨rfl, rfl⟩

theorem not_leaving {text : String} (hkind : kindOf text = .command) :
    ¬ (Text.trim text = ".exit" ∨ Text.trim text = ".quit") := by
  intro hleaves
  rw [kindOf] at hkind
  split at hkind
  · cases hkind
  · split at hkind
    · cases (if_pos hleaves).symm.trans hkind
    · split at hkind <;> cases hkind

/-- A piece is answered by what its end calls for, and no block is open after it. -/
theorem react_piece (p : Piece) (ended : Bool) :
    (react p.block.lines p.signal).entries ended = p.entries ended ∧
      (react p.block.lines p.signal).next p.block.lines ended =
        if p.stops ended then none else some [] := by
  rw [Piece.entries, Piece.stops, Piece.leaves, Piece.source?, Piece.code, Piece.said]
  obtain ⟨⟨lines, opened⟩, signal, ends⟩ := p
  cases signal with
  | line text =>
    dsimp only [Collects] at ends
    cases lines with
    | nil =>
      rw [react, reactToLine_nil]
      cases hkind : kindOf text with
      | blank | leaving => simp [hkind, Reaction.entries, Reaction.next]
      | command =>
        have hreaction := command_reaction (not_leaving hkind) ended []
        simpa [hkind] using hreaction
      | opening => exact absurd hkind ends
      | statement => cases ended <;> simp [hkind, Reaction.entries, Reaction.next, Text.joined]
    | cons opener more =>
      -- Only a blank line ends a block.
      rw [if_neg (List.cons_ne_nil _ _), Decidable.not_not] at ends
      rw [react, reactToLine_cons, if_pos ends]
      cases ended <;> simp [ends, Reaction.entries, Reaction.next]
  | interrupt => cases lines <;> exact ⟨rfl, rfl⟩
  | endOfInput | unavailable => exact ⟨rfl, rfl⟩

/-! ## Conversations -/

theorem asks_append (block : List String) (text : String) :
    asks (block ++ [text]) = asks block ++ [.asked (prompt block)] := by
  cases block with
  | nil => rfl
  | cons opener more =>
    rw [List.cons_append, asks, List.map_append]
    rfl

theorem prompt_eq (block : List String) :
    prompt block = if block = [] then ">>> " else "... " := by
  cases block <;> rfl

/-- While a block is open, or none, a conversation goes on over the pieces that are cut from
    there; the lines of the block have been asked for. -/
theorem converse_held {c : Console W} {b : Block} {signals rest : List Signal}
    {s s' : List Entry × W} (h : c.watched.converse b.lines signals s = .ok (rest, s')) :
    ∃ xs, s'.1 = s.1 ++ xs ∧
      Held (cutFrom b signals).1 (cutFrom b signals).2 (asks b.lines ++ xs) rest := by
  induction signals generalizing b s with
  | nil =>
    cases h
    refine ⟨[], (List.append_nil _).symm, ?_⟩
    rw [List.append_nil]
    exact .exhausted b
  | cons signal later ih =>
    obtain ⟨next, s₁, hturn, h⟩ := Run.exists_of_bind h
    obtain ⟨ended, hlog, hnext⟩ := turn_log hturn
    by_cases hcollects : Collects b.lines signal
    -- The line has been asked for, and belongs to the piece that is to come.
    · obtain ⟨text, rfl, hreact⟩ := react_collects hcollects
      rw [hreact] at hlog hnext
      subst hnext
      obtain ⟨xs, hxs, hheld⟩ := ih (b := b.add (.line text) hcollects) h
      refine ⟨.asked (prompt b.lines) :: xs, ?_, ?_⟩
      · rw [hxs, hlog, List.append_assoc]
        rfl
      · rw [cutFrom, dif_pos hcollects]
        rw [Block.add, asks_append, List.append_assoc] at hheld
        exact hheld
    -- The signal ends a piece, all lines of which have been asked for.
    · let p : Piece := ⟨b, signal, hcollects⟩
      obtain ⟨hentries, hstops⟩ := react_piece p ended
      rw [hentries] at hlog
      rw [hstops] at hnext
      have hpiece : asks b.lines ++ .asked (prompt b.lines) :: p.entries ended = p.log ended := by
        rw [prompt_eq]
        rfl
      rw [cutFrom, dif_neg hcollects]
      cases hp : p.stops ended with
      | true =>
        rw [hp, if_pos rfl] at hnext
        subst hnext
        cases h
        refine ⟨_, hlog, ?_⟩
        have hheld : Held (p :: (cutFrom .none rest).1) (cutFrom .none rest).2 (p.log ended)
            (uncut (cutFrom .none rest)) := .stopped hp _ _
        rw [uncut_cutFrom] at hheld
        rw [hpiece]
        exact hheld
      | false =>
        rw [hp, if_neg Bool.false_ne_true] at hnext
        subst hnext
        obtain ⟨xs, hxs, hheld⟩ := ih (b := .none) h
        refine ⟨.asked (prompt b.lines) :: p.entries ended ++ xs, ?_, ?_⟩
        · rw [hxs, hlog, List.append_assoc]
        · rw [← List.append_assoc, hpiece]
          exact .next hp hheld

/-- To ask runs no code. -/
theorem asks_source? (block : List String) : (asks block).filterMap Entry.source? = [] := by
  cases block with
  | nil => rfl
  | cons opener more =>
    refine List.filterMap_eq_nil_iff.2 fun x hx => ?_
    rcases List.mem_cons.1 hx with rfl | hx
    · rfl
    · obtain ⟨_, -, rfl⟩ := List.mem_map.1 hx
      rfl

/-- Nor does what is told at the end of a piece. -/
theorem Piece.said_source? (p : Piece) : p.said.filterMap Entry.source? = [] := by
  rw [said]
  split
  next =>
    split
    · rw [commandEntry]
      split
      · rfl
      · split <;> rfl
    · rfl
  all_goals rfl

/-- The source of a piece is all that is run. -/
theorem Piece.log_source? (p : Piece) (ended : Bool) :
    (p.log ended).filterMap Entry.source? = p.source?.toList := by
  rw [log, List.filterMap_append, asks_source?, List.nil_append,
    List.filterMap_cons_none (f := Entry.source?) rfl, entries]
  cases p.source? with
  | some code => rfl
  | none => exact p.said_source?

/-- What is run in a conversation are the sources of its pieces, in order, up to the one that stops
    it; what comes after is left unread. -/
theorem Held.sources {pieces : List Piece} {left : Block} {xs : List Entry} {rest : List Signal}
    (h : Held pieces left xs rest) :
    ∃ answered later, pieces = answered ++ later ∧
      xs.filterMap Entry.source? = answered.filterMap Piece.source? ∧
      (rest = uncut (later, left) ∨ later = [] ∧ rest = []) := by
  induction h with
  | exhausted left => exact ⟨[], [], rfl, asks_source? _, .inr ⟨rfl, rfl⟩⟩
  | @stopped p ended _ later left =>
    refine ⟨[p], later, rfl, ?_, .inl rfl⟩
    rw [p.log_source?, List.filterMap_cons]
    cases p.source? <;> rfl
  | @next p ended _ _ _ _ _ _ ih =>
    obtain ⟨answered, later, rfl, hsources, hrest⟩ := ih
    refine ⟨p :: answered, later, rfl, ?_, hrest⟩
    rw [List.filterMap_append, p.log_source?, hsources, List.filterMap_cons]
    cases p.source? <;> rfl

/-! ## The same without the watch -/

/-- The log aside, nothing changes. -/
def SameWorld (s : List Entry × W) (w : W) : Prop := s.2 = w

theorem logged_sim (entry : α → Entry) (m : Run W α) :
    Run.Sim SameWorld Eq (logged entry m) m := by
  rintro ⟨log, w⟩ _ rfl
  rw [logged]
  cases m w with
  | error crash => exact .failed crash
  | ok x => exact .returned ⟨rfl, rfl⟩

namespace Console

variable (c : Console W)

theorem ask_sim (prompt : String) : Run.Sim SameWorld Eq (c.watched.ask prompt) (c.ask prompt) :=
  logged_sim (fun _ => .asked prompt) _

theorem execute_sim (code : String) :
    Run.Sim SameWorld Eq (c.watched.execute code) (c.execute code) := logged_sim (.executed code) _

theorem clear_sim : Run.Sim SameWorld Eq c.watched.clear c.clear :=
  logged_sim (fun _ => .cleared) _

theorem tell_sim (notice : Notice) :
    Run.Sim SameWorld Eq (c.watched.tell notice) (c.tell notice) :=
  logged_sim (fun _ => .told notice) _

/-- The log changes nothing about how a reaction is performed. -/
theorem perform_sim (block : List String) (r : Reaction) :
    Run.Sim SameWorld Eq (c.watched.perform block r) (c.perform block r) := by
  cases r with
  | nothing | collect => exact .pure rfl
  | run code =>
    refine (c.execute_sim code).bind ?_
    rintro ended _ rfl
    cases ended <;> exact .pure rfl
  | clear => exact c.clear_sim.bind fun _ _ _ => .pure rfl
  | tell notice => exact (c.tell_sim notice).bind fun _ _ _ => .pure rfl
  | stop notice =>
    refine Run.Sim.bind (A := Eq) ?_ fun _ _ _ => .pure rfl
    cases notice with
    | none => exact .pure rfl
    | some notice => exact c.tell_sim notice

theorem converse_sim (block : List String) (signals : List Signal) :
    Run.Sim SameWorld Eq (c.watched.converse block signals) (c.converse block signals) := by
  induction signals generalizing block with
  | nil => exact .pure rfl
  | cons signal rest ih =>
    refine Run.Sim.bind (A := Eq) ((c.ask_sim _).bind fun _ _ _ => c.perform_sim _ _) ?_
    rintro next _ rfl
    cases next with
    | none => exact .pure rfl
    | some block => exact ih block

/-- Nothing that the console does crashes. -/
structure Steady (c : Console W) : Prop where
  ask : ∀ prompt, (c.ask prompt).CrashFree
  execute : ∀ code, (c.execute code).CrashFree
  clear : c.clear.CrashFree
  tell : ∀ notice, (c.tell notice).CrashFree

variable {c}

/-- On a console that does not crash no reaction does. -/
theorem Steady.perform (hc : c.Steady) (block : List String) (r : Reaction) :
    (c.perform block r).CrashFree := by
  cases r with
  | nothing | collect => exact .pure _
  | run code =>
    refine (hc.execute code).bind fun ended => ?_
    cases ended <;> exact .pure _
  | clear => exact hc.clear.bind fun _ => .pure _
  | tell notice => exact (hc.tell notice).bind fun _ => .pure _
  | stop notice =>
    refine Run.CrashFree.bind ?_ fun _ => .pure _
    cases notice with
    | none => exact .pure _
    | some notice => exact hc.tell notice

/-- So no conversation on it crashes, by induction on the signals. -/
theorem Steady.converse (hc : c.Steady) (block : List String) (signals : List Signal) :
    (c.converse block signals).CrashFree := by
  induction signals generalizing block with
  | nil => exact .pure _
  | cons signal rest ih =>
    refine Run.CrashFree.bind ((hc.ask _).bind fun _ => hc.perform _ _) fun next => ?_
    cases next with
    | none => exact .pure _
    | some block => exact ih block

/-- A console over a session does not crash if the interpreters do not. -/
theorem ofSession_steady {κ ι : Type} {e : Engine Host κ ι} (he : e.Steady) (p : Palette) :
    (ofSession e p).Steady where
  ask _ _ := ⟨_, rfl⟩
  execute code := by
    rintro ⟨s, w⟩
    obtain ⟨⟨⟨mode, s'⟩, shared, h⟩, hrun⟩ := he.line s code w
    refine ⟨(s'.shouldExit, s', shared, h.clearOutput), ?_⟩
    change (s.execute e code w >>= fun x =>
      .ok (x.1.2.shouldExit, x.1.2, x.2.1, x.2.2.clearOutput)) = _
    rw [hrun]
    rfl
  clear _ := ⟨_, rfl⟩
  tell _ _ := ⟨_, rfl⟩

end Console

/-! ## The law -/

end LedBoard.Terminal
