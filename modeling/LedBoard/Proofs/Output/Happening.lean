import LedBoard.Output

/-!
# What happens when a chunk is appended

A listener may append to the buffer it listens to while it acts, so an append can happen within an
append. The rule is the same for both: the chunk is added, the listener in place is taken out and
told, and when it has finished it gets its place back unless another one was installed meanwhile
(`Appended`, and `Acted` for the acts of a listener). What happens on the way is put down in one
sequence, the inner appends included.

* `Buffer.happenings`: this sequence, computed;
* `appended_iff`: by the rule a chunk can be appended in one way only, which is what
  `Buffer.append` does, with what is computed happening on the way;
* `append_listener`, `added_append`: the listener that is in place afterwards, and what a listener
  appends itself.
-/

namespace LedBoard.Output

/-- What can happen to a buffer. -/
inductive Happening
  /-- A chunk is put at the end of the text. -/
  | added (chunk : String)
  /-- A listener is told of a chunk, and begins to act. -/
  | told (l : Listener) (chunk : String)
  /-- A listener has done all it does. -/
  | finished (l : Listener)
  /-- The text is taken. -/
  | took (text : String)
  /-- The text is dropped. -/
  | cleared (text : String)
  | installed (l : Listener)
  deriving DecidableEq

namespace Happening

/-- The note that is left behind. -/
def note? : Happening → Option Note
  | .told l chunk => some (.heard l.name chunk)
  | .took text => some (.took text)
  | _ => none

/-- The chunk that is added. -/
def added? : Happening → Option String
  | .added chunk => some chunk
  | _ => none

/-- The text that leaves the buffer. -/
def removed? : Happening → Option String
  | .took text | .cleared text => some text
  | _ => none

/-- The listener that is put in place from outside. -/
def installed? : Happening → Option Listener
  | .installed l => some l
  | _ => none

end Happening

/-! ## The rule -/

mutual

/-- Appending a chunk to a buffer can make these things happen and leave this buffer. -/
inductive Appended : Buffer → String → List Happening → Buffer → Prop
  | empty (b : Buffer) : Appended b "" [] b
  | unheard (text : String) {chunk : String} (hchunk : chunk ≠ "") :
      Appended ⟨text, none⟩ chunk [.added chunk] ⟨text ++ chunk, none⟩
  /-- The listener acts on the buffer from which it was taken out. -/
  | heard {text chunk : String} {l : Listener} {xs : List Happening} {b : Buffer}
      (hchunk : chunk ≠ "") (hacts : Acted ⟨text ++ chunk, none⟩ l.acts xs b) :
      Appended ⟨text, some l⟩ chunk (.added chunk :: .told l chunk :: (xs ++ [.finished l]))
        { b with listener := b.listener.or (some l) }

/-- The acts of a listener, in order, can make these things happen and leave this buffer. -/
inductive Acted : Buffer → List Act → List Happening → Buffer → Prop
  | nil (b : Buffer) : Acted b [] [] b
  | append {b b' b'' : Buffer} {chunk : String} {acts : List Act} {xs ys : List Happening}
      (h : Appended b chunk xs b') (hacts : Acted b' acts ys b'') :
      Acted b (.append chunk :: acts) (xs ++ ys) b''
  | take {b b' : Buffer} {acts : List Act} {xs : List Happening}
      (hacts : Acted b.take.2 acts xs b') : Acted b (.take :: acts) (.took b.take.1 :: xs) b'
  | clear {b b' : Buffer} {acts : List Act} {xs : List Happening}
      (hacts : Acted b.clear acts xs b') : Acted b (.clear :: acts) (.cleared b.text :: xs) b'
  | install {b b' : Buffer} {name : String} {acts : List Act} {xs : List Happening}
      (hacts : Acted (b.listen (.quiet name)) acts xs b') :
      Acted b (.install name :: acts) (.installed (.quiet name) :: xs) b'

end

/-! ## What happens, computed -/

/-- The buffer as its listener finds it. -/
def Acting.buffer (b : Acting) : Buffer := ⟨b.text, b.installed.map .quiet⟩

/-- What happens in an act of a listener. -/
def Act.happenings (b : Acting) : Act → List Happening
  | .append chunk =>
    if chunk.isEmpty then []
    else .added chunk :: b.installed.toList.flatMap fun name =>
      [.told (.quiet name) chunk, .finished (.quiet name)]
  | .take => [.took b.text]
  | .clear => [.cleared b.text]
  | .install name => [.installed (.quiet name)]

/-- What happens in the acts of a listener. -/
def Acting.happenings (b : Acting) : List Act → List Happening
  | [] => []
  | act :: acts => act.happenings b ++ (act.perform b).1.happenings acts

/-- What happens when a chunk is appended. -/
def Buffer.happenings (b : Buffer) (chunk : String) : List Happening :=
  if chunk.isEmpty then []
  else .added chunk :: match b.listener with
    | none => []
    | some l =>
      .told l chunk :: (Acting.happenings ⟨b.text ++ chunk, none⟩ l.acts ++ [.finished l])

section

variable {text chunk : String} (hchunk : chunk ≠ "")

include hchunk

theorem append_unheard : (⟨text, none⟩ : Buffer).append chunk = (⟨text ++ chunk, none⟩, []) :=
  if_neg (mt String.isEmpty_iff.1 hchunk)

theorem happenings_unheard : (⟨text, none⟩ : Buffer).happenings chunk = [.added chunk] :=
  if_neg (mt String.isEmpty_iff.1 hchunk)

/-- The listener gets its place back if it has installed none. -/
theorem append_heard (l : Listener) :
    (⟨text, some l⟩ : Buffer).append chunk =
      (⟨(performAll ⟨text ++ chunk, none⟩ l.acts).1.text,
          (performAll ⟨text ++ chunk, none⟩ l.acts).1.buffer.listener.or (some l)⟩,
        .heard l.name chunk :: (performAll ⟨text ++ chunk, none⟩ l.acts).2) := by
  rw [Buffer.append, if_neg (mt String.isEmpty_iff.1 hchunk)]
  dsimp only
  generalize performAll ⟨text ++ chunk, none⟩ l.acts = after
  obtain ⟨⟨text, _ | name⟩, notes⟩ := after <;> rfl

/-- With a listener in place a chunk is added, the listener is told, acts on a buffer without it,
    and finishes. -/
theorem happenings_heard (l : Listener) :
    (⟨text, some l⟩ : Buffer).happenings chunk = .added chunk :: .told l chunk ::
      (Acting.happenings ⟨text ++ chunk, none⟩ l.acts ++ [.finished l]) :=
  if_neg (mt String.isEmpty_iff.1 hchunk)

end

/-- By the rule nothing happens at an empty chunk. -/
theorem appended_empty_iff {b b' : Buffer} {xs : List Happening} :
    Appended b "" xs b' ↔ xs = [] ∧ b' = b := by
  refine ⟨fun h => ?_, ?_⟩
  · cases h with
    | empty => exact ⟨rfl, rfl⟩
    | unheard _ hchunk => exact absurd rfl hchunk
    | heard hchunk _ => exact absurd rfl hchunk
  · rintro ⟨rfl, rfl⟩
    exact .empty _

theorem appended_unheard_iff {text chunk : String} {xs : List Happening} {b' : Buffer}
    (hchunk : chunk ≠ "") :
    Appended ⟨text, none⟩ chunk xs b' ↔ xs = [.added chunk] ∧ b' = ⟨text ++ chunk, none⟩ := by
  refine ⟨fun h => ?_, ?_⟩
  · cases h with
    | empty => exact absurd rfl hchunk
    | unheard => exact ⟨rfl, rfl⟩
  · rintro ⟨rfl, rfl⟩
    exact .unheard text hchunk

/-- By the rule a listener that is told of a chunk acts on a buffer without it, and gets its place
    back unless another has it. -/
theorem appended_heard_iff {text chunk : String} {l : Listener} {xs : List Happening} {b' : Buffer}
    (hchunk : chunk ≠ "") :
    Appended ⟨text, some l⟩ chunk xs b' ↔ ∃ ys b, Acted ⟨text ++ chunk, none⟩ l.acts ys b ∧
      xs = .added chunk :: .told l chunk :: (ys ++ [.finished l]) ∧
      b' = { b with listener := b.listener.or (some l) } := by
  refine ⟨fun h => ?_, ?_⟩
  · cases h with
    | empty => exact absurd rfl hchunk
    | heard _ hacts => exact ⟨_, _, hacts, rfl, rfl⟩
  · rintro ⟨ys, b, hacts, rfl, rfl⟩
    exact .heard hchunk hacts

theorem acted_nil_iff {b b' : Buffer} {xs : List Happening} :
    Acted b [] xs b' ↔ xs = [] ∧ b' = b := by
  refine ⟨fun h => ?_, ?_⟩
  · cases h
    exact ⟨rfl, rfl⟩
  · rintro ⟨rfl, rfl⟩
    exact .nil _

/-- While a listener acts, a chunk is appended with the listener it installed in place, if any,
    and this one does nothing further. -/
theorem appended_acting_iff {b : Acting} {chunk : String} {xs : List Happening} {b' : Buffer} :
    Appended b.buffer chunk xs b' ↔
      xs = (Act.append chunk).happenings b ∧ b' = ((Act.append chunk).perform b).1.buffer := by
  obtain ⟨text, installed⟩ := b
  by_cases hchunk : chunk = ""
  · subst hchunk
    exact appended_empty_iff
  have hempty : chunk.isEmpty = false := by simpa [String.isEmpty_iff] using hchunk
  rw [Act.happenings, Act.perform, hempty]
  cases installed with
  | none => exact appended_unheard_iff hchunk
  | some name =>
    refine (appended_heard_iff hchunk).trans ⟨?_, ?_⟩
    · rintro ⟨ys, b, hacts, rfl, rfl⟩
      obtain ⟨rfl, rfl⟩ := acted_nil_iff.1 hacts
      exact ⟨rfl, rfl⟩
    · rintro ⟨rfl, rfl⟩
      exact ⟨[], _, .nil _, rfl, rfl⟩

/-- The acts of a listener by the rule are the acts as they are performed: the rest of them find
    the buffer as the first one leaves it. -/
theorem acted_iff {b : Acting} {acts : List Act} {xs : List Happening} {b' : Buffer} :
    Acted b.buffer acts xs b' ↔ xs = b.happenings acts ∧ b' = (performAll b acts).1.buffer := by
  -- By induction on the acts: what is left of them finds the buffer as the first one leaves it.
  -- By induction on the acts: what is left of them finds the buffer as the first one leaves it.
  induction acts generalizing b xs with
  | nil => exact acted_nil_iff
  | cons act acts ih =>
    refine ⟨fun h => ?_, ?_⟩
    · cases h with
      | append happened hacts =>
        obtain ⟨rfl, rfl⟩ := appended_acting_iff.1 happened
        obtain ⟨rfl, rfl⟩ := ih.1 hacts
        exact ⟨rfl, rfl⟩
      | take hacts =>
        obtain ⟨rfl, rfl⟩ := (ih (b := { b with text := "" })).1 hacts
        exact ⟨rfl, rfl⟩
      | clear hacts =>
        obtain ⟨rfl, rfl⟩ := (ih (b := { b with text := "" })).1 hacts
        exact ⟨rfl, rfl⟩
      | @install _ _ name _ _ hacts =>
        obtain ⟨rfl, rfl⟩ := (ih (b := { b with installed := some name })).1 hacts
        exact ⟨rfl, rfl⟩
    · rintro ⟨rfl, rfl⟩
      have hrest := (ih (b := (act.perform b).1)).2 ⟨rfl, rfl⟩
      cases act with
      | append chunk => exact .append (appended_acting_iff.2 ⟨rfl, rfl⟩) hrest
      | take => exact .take hrest
      | clear => exact .clear hrest
      | install name => exact .install hrest

/-- A chunk is appended by the rule exactly as `Buffer.append` appends it. -/
theorem appended_iff {b b' : Buffer} {chunk : String} {xs : List Happening} :
    Appended b chunk xs b' ↔ xs = b.happenings chunk ∧ b' = (b.append chunk).1 := by
  by_cases hchunk : chunk = ""
  · subst hchunk
    exact appended_empty_iff
  obtain ⟨text, _ | l⟩ := b
  · rw [append_unheard hchunk, happenings_unheard hchunk]
    exact appended_unheard_iff hchunk
  · rw [append_heard hchunk, happenings_heard hchunk, appended_heard_iff hchunk]
    refine ⟨?_, ?_⟩
    · rintro ⟨ys, b, hacts, rfl, rfl⟩
      obtain ⟨rfl, rfl⟩ := (acted_iff (b := ⟨text ++ chunk, none⟩)).1 hacts
      exact ⟨rfl, rfl⟩
    · rintro ⟨rfl, rfl⟩
      exact ⟨_, _, (acted_iff (b := ⟨text ++ chunk, none⟩)).2 ⟨rfl, rfl⟩, rfl, rfl⟩

/-! ## What is left of it -/

/-- What the acts of a listener append. -/
def Act.chunk? : Act → Option String
  | .append chunk => if chunk.isEmpty then none else some chunk
  | _ => none

/-- The listener that was installed last. -/
def lastInstalled (xs : List Happening) : Option Listener :=
  (xs.filterMap Happening.installed?).getLast?

theorem lastInstalled_append (xs ys : List Happening) :
    lastInstalled (xs ++ ys) = (lastInstalled ys).or (lastInstalled xs) := by
  rw [lastInstalled, List.filterMap_append, List.getLast?_append]
  rfl

/-- What one act leaves: the notes, the listener in place, and what was added. -/
structure Act.Leaves (b : Acting) (act : Act) : Prop where
  notes : (act.perform b).2 = (act.happenings b).filterMap Happening.note?
  listener : (act.perform b).1.buffer.listener =
    (lastInstalled (act.happenings b)).or b.buffer.listener
  added : (act.happenings b).filterMap Happening.added? = act.chunk?.toList

/-- What an act does to a buffer can be read off its happenings: the notes, the listener in place
    and the text that is added. -/
theorem Act.leaves (b : Acting) (act : Act) : act.Leaves b := by
  cases act with
  | append chunk =>
    by_cases hchunk : chunk = ""
    · subst hchunk
      exact ⟨rfl, rfl, rfl⟩
    have hempty : chunk.isEmpty = false := by simpa [String.isEmpty_iff] using hchunk
    obtain ⟨text, _ | name⟩ := b <;>
      refine ⟨?_, ?_, ?_⟩ <;>
      simp only [perform, happenings, chunk?, hempty] <;> rfl
  | take => exact ⟨rfl, rfl, rfl⟩
  | clear => exact ⟨rfl, rfl, rfl⟩
  | install name => exact ⟨rfl, rfl, rfl⟩

/-- The notes of a listener that acts are those of what happens. -/
theorem note_performAll (b : Acting) (acts : List Act) :
    (performAll b acts).2 = (b.happenings acts).filterMap Happening.note? := by
  induction acts generalizing b with
  | nil => rfl
  | cons act acts ih =>
    rw [Acting.happenings, List.filterMap_append, ← ih, ← (act.leaves b).notes]
    rfl

/-- After the acts of a listener the last one that was installed is in place, and the one before if
    there was none. -/
theorem performAll_listener (b : Acting) (acts : List Act) :
    (performAll b acts).1.buffer.listener =
      (lastInstalled (b.happenings acts)).or b.buffer.listener := by
  induction acts generalizing b with
  | nil => rfl
  | cons act acts ih =>
    rw [Acting.happenings, lastInstalled_append, Option.or_assoc, ← (act.leaves b).listener, ← ih]
    rfl

/-- The text that acts add is that of their chunks that are not empty. -/
theorem added_acting (b : Acting) (acts : List Act) :
    (b.happenings acts).filterMap Happening.added? = acts.filterMap Act.chunk? := by
  induction acts generalizing b with
  | nil => rfl
  | cons act acts ih =>
    rw [Acting.happenings, List.filterMap_append, ih, (act.leaves b).added, List.filterMap_cons]
    cases act.chunk? <;> rfl

theorem filterMap_finished {α : Type} {f : Happening → Option α} {l : Listener}
    (hf : f (.finished l) = none) (xs : List Happening) :
    (xs ++ [Happening.finished l]).filterMap f = xs.filterMap f := by
  rw [List.filterMap_append, List.filterMap_cons_none hf, List.filterMap_nil, List.append_nil]

/-- The notes of an append are those of what happens. -/
theorem note_append (b : Buffer) (chunk : String) :
    (b.append chunk).2 = (b.happenings chunk).filterMap Happening.note? := by
  by_cases hchunk : chunk = ""
  · subst hchunk
    rfl
  obtain ⟨text, _ | l⟩ := b
  · rw [append_unheard hchunk, happenings_unheard hchunk]
    rfl
  · rw [append_heard hchunk, happenings_heard hchunk, note_performAll]
    exact congrArg _ (filterMap_finished rfl _).symm

/-- After an append the last listener that was installed on the way is in place, and the one
    before if there was none. -/
theorem append_listener (b : Buffer) (chunk : String) :
    (b.append chunk).1.listener = (lastInstalled (b.happenings chunk)).or b.listener := by
  by_cases hchunk : chunk = ""
  · subst hchunk
    rfl
  obtain ⟨text, _ | l⟩ := b
  · rw [append_unheard hchunk, happenings_unheard hchunk]
    rfl
  · have hlast (xs : List Happening) :
        lastInstalled (.added chunk :: .told l chunk :: (xs ++ [.finished l])) = lastInstalled xs :=
      congrArg List.getLast? (filterMap_finished rfl xs)
    rw [append_heard hchunk, happenings_heard hchunk, hlast, performAll_listener]
    exact congrArg (Option.or · (some l)) Option.or_none

/-- An append adds the chunk, and then what the listener in place appends. -/
theorem added_append (b : Buffer) {chunk : String} (hchunk : chunk ≠ "") :
    (b.happenings chunk).filterMap Happening.added? =
      chunk :: b.listener.toList.flatMap fun l => l.acts.filterMap Act.chunk? := by
  obtain ⟨text, _ | l⟩ := b
  · rw [happenings_unheard hchunk]
    rfl
  · rw [happenings_heard hchunk, Option.toList_some, List.flatMap_singleton,
      ← added_acting ⟨text ++ chunk, none⟩]
    exact congrArg _ (filterMap_finished rfl _)

end LedBoard.Output
