import LedBoard.Proofs.Output.Happening

/-!
# The order of what happens

What happens to a buffer can be followed step by step, knowing the text, the listener in place,
the listeners that are acting, and who must be told of the chunk that was just added (`Scene`). In
a scene not everything is allowed to happen next: a listener is told of a chunk only if it was in
place when the chunk was added, and at once, and not while it is acting; what is taken or dropped
is the whole text (`Scene.Allows`).

* `Leads`: from a scene to a later one, only what is allowed happens;
* `leads_append`: so it is with what happens when a chunk is appended;
* `Leads.of_added`, `Leads.of_told`, `Leads.of_removed`: what this says of a single happening, at
  any place of the sequence;
* `Leads.conserved`: whatever was added is removed or still there, in order.
-/

namespace LedBoard.Output

/-- What is known in the middle of what happens to a buffer. -/
structure Scene where
  text : String
  /-- The listener in place. -/
  place : Option Listener
  /-- The listeners that have been told and have not finished, the latest first. -/
  running : List Listener
  /-- Who must be told what before anything else happens. -/
  owed : Option (Listener × String)

namespace Scene

/-- The scene when all is said. -/
def calm (b : Buffer) (running : List Listener) : Scene := ⟨b.text, b.listener, running, none⟩

/-- The next scene. A chunk that is added takes the listener out of its place. -/
def after (s : Scene) : Happening → Scene
  | .added chunk =>
    { s with text := s.text ++ chunk, place := none, owed := s.place.map fun l => (l, chunk) }
  | .told l _ => { s with running := l :: s.running, owed := none }
  | .finished l => { s with place := s.place.or (some l), running := s.running.tail }
  | .took _ | .cleared _ => { s with text := "" }
  | .installed l => { s with place := some l }

/-- The scene after all of this. -/
def afterAll (s : Scene) (xs : List Happening) : Scene := xs.foldl after s

/-- What may happen next. -/
def Allows (s : Scene) : Happening → Prop
  | .added chunk => s.owed = none ∧ chunk ≠ ""
  | .told l chunk => s.owed = some (l, chunk) ∧ l ∉ s.running
  | .finished l => s.owed = none ∧ s.running.head? = some l
  | .took text | .cleared text => s.owed = none ∧ text = s.text
  | .installed _ => s.owed = none

end Scene

/-- One after the other, only what is allowed happens. -/
inductive Leads : Scene → List Happening → Scene → Prop
  | nil (s : Scene) : Leads s [] s
  | cons {s s' : Scene} {x : Happening} {xs : List Happening} (h : s.Allows x)
      (hxs : Leads (s.after x) xs s') : Leads s (x :: xs) s'

namespace Leads

variable {s s' s'' : Scene} {xs ys : List Happening}

theorem append (h : Leads s xs s') (h' : Leads s' ys s'') : Leads s (xs ++ ys) s'' := by
  induction h with
  | nil => exact h'
  | cons hx _ ih => exact .cons hx (ih h')

theorem eq_afterAll (h : Leads s xs s') : s.afterAll xs = s' := by
  induction h with
  | nil => rfl
  | cons _ _ ih => exact ih

/-- What has happened leads to the scene after it, and from there to what comes after. -/
theorem split (h : Leads s (xs ++ ys) s') :
    Leads s xs (s.afterAll xs) ∧ Leads (s.afterAll xs) ys s' := by
  induction xs generalizing s with
  | nil => exact ⟨.nil s, h⟩
  | cons x xs ih =>
    cases h with
    | cons hx h => exact ⟨.cons hx (ih h).1, (ih h).2⟩

end Leads

/-! ## Appending -/

open Scene (calm)

/-- A listener that acts is none that does nothing, so what it installs may be told. -/
theorem Act.leads (b : Acting) {running : List Listener} (hrunning : ∀ l ∈ running, l.acts ≠ [])
    (act : Act) :
    Leads (calm b.buffer running) (act.happenings b) (calm (act.perform b).1.buffer running) := by
  cases act with
  | append chunk =>
    by_cases hchunk : chunk = ""
    · subst hchunk
      exact .nil _
    rw [happenings, perform, if_neg (mt String.isEmpty_iff.1 hchunk),
      if_neg (mt String.isEmpty_iff.1 hchunk)]
    obtain ⟨text, _ | name⟩ := b
    · exact .cons ⟨rfl, hchunk⟩ (.nil _)
    · have hname : Listener.quiet name ∉ running := fun hmem => hrunning _ hmem rfl
      exact .cons ⟨rfl, hchunk⟩ (.cons ⟨rfl, hname⟩ (.cons ⟨rfl, rfl⟩ (.nil _)))
  | take => exact .cons ⟨rfl, rfl⟩ (.nil _)
  | clear => exact .cons ⟨rfl, rfl⟩ (.nil _)
  | install name => exact .cons rfl (.nil _)

/-- The acts of a listener are allowed while it runs, one after the other. -/
theorem Acting.leads (b : Acting) (running : List Listener) (acts : List Act)
    (hrunning : acts ≠ [] → ∀ l ∈ running, l.acts ≠ []) :
    Leads (calm b.buffer running) (b.happenings acts)
      (calm (performAll b acts).1.buffer running) := by
  induction acts generalizing b with
  | nil => exact .nil _
  | cons act acts ih =>
    have hacting := hrunning (List.cons_ne_nil _ _)
    exact (act.leads b hacting).append (ih (act.perform b).1 fun _ => hacting)

theorem leads_append (b : Buffer) (chunk : String) :
    Leads (calm b []) (b.happenings chunk) (calm (b.append chunk).1 []) := by
  by_cases hchunk : chunk = ""
  · subst hchunk
    exact .nil _
  obtain ⟨text, _ | l⟩ := b
  · rw [append_unheard hchunk, happenings_unheard hchunk]
    exact .cons ⟨rfl, hchunk⟩ (.nil _)
  · rw [append_heard hchunk, happenings_heard hchunk]
    -- If the listener has acts at all, it is none of the quiet ones that it installs.
    have hacts := Acting.leads ⟨text ++ chunk, none⟩ [l] l.acts fun hne => by simpa using hne
    exact .cons ⟨rfl, hchunk⟩ (.cons ⟨rfl, List.not_mem_nil⟩
      (hacts.append (.cons ⟨rfl, rfl⟩ (.nil _))))

/-! ## What may be read off -/

namespace Leads

variable {s s' : Scene} {before after : List Happening}

/-- Everything that happens on the way is allowed where it happens. -/
theorem allows {x : Happening} (h : Leads s (before ++ x :: after) s') :
    (s.afterAll before).Allows x := by
  cases h.split.2 with
  | cons hx _ => exact hx

/-- A chunk that is added is no empty one, and the listener in place is told of it at once. -/
theorem of_added {chunk : String} (h : Leads s (before ++ .added chunk :: after) s')
    (howed : s'.owed = none) :
    chunk ≠ "" ∧ ∀ l ∈ (s.afterAll before).place, ∃ rest, after = .told l chunk :: rest := by
  refine ⟨h.allows.2, fun l hl => ?_⟩
  obtain ⟨-, hadded⟩ := h.split
  cases hadded with
  | cons _ hafter =>
    -- The sequence cannot end here either, since at the end nobody is owed.
    have howes : ((s.afterAll before).after (.added chunk)).owed = some (l, chunk) := by
      rw [Scene.after, hl]
      rfl
    cases hafter with
    | nil => cases howes.symm.trans howed
    | @cons _ _ x xs hx _ =>
      -- Nothing but the telling is allowed while it is owed.
      cases x with
      | told l' chunk' =>
        cases howes.symm.trans hx.1
        exact ⟨xs, rfl⟩
      | installed => cases howes.symm.trans hx
      | _ => cases howes.symm.trans hx.1

/-- A listener is told of a chunk only right after it was added with the listener in place, and
    never while it is acting. -/
theorem of_told {l : Listener} {chunk : String} (h : Leads s (before ++ .told l chunk :: after) s')
    (howed : s.owed = none) :
    l ∉ (s.afterAll before).running ∧
      ∃ rest, before = rest ++ [.added chunk] ∧ (s.afterAll rest).place = some l := by
  obtain ⟨howes, hrunning⟩ := h.allows
  refine ⟨hrunning, ?_⟩
  obtain rfl | ⟨rest, x, rfl⟩ := List.eq_nil_or_concat before
  · cases howed.symm.trans howes
  rw [List.concat_eq_append] at h howes ⊢
  rw [List.append_assoc] at h
  have hx := h.allows
  rw [Scene.afterAll, List.foldl_append, ← Scene.afterAll] at howes
  -- Only a chunk that is added makes someone owed; after anything else nobody is.
  cases x with
  | added chunk' =>
    obtain ⟨l', hl', hpair⟩ := Option.map_eq_some_iff.1 howes
    cases hpair
    exact ⟨rest, rfl, hl'⟩
  | told => cases howes
  | installed => cases hx.symm.trans howes
  | _ => cases hx.1.symm.trans howes

/-- What is taken or dropped is the whole text. -/
theorem of_removed {x : Happening} {text : String} (h : Leads s (before ++ x :: after) s')
    (hx : x.removed? = some text) : text = (s.afterAll before).text := by
  have hallows := h.allows
  cases x with
  | took | cleared =>
    cases hx
    exact hallows.2
  | _ => cases hx

/-- Of the text and what is added to it, a part is removed, and then comes what is left. -/
theorem conserved {xs : List Happening} (h : Leads s xs s') :
    s.text ++ String.join (xs.filterMap Happening.added?) =
      String.join (xs.filterMap Happening.removed?) ++ s'.text := by
  induction h with
  | nil s => exact String.append_empty.trans String.empty_append.symm
  | @cons s s' x xs hx _ ih =>
    cases x with
    | added chunk =>
      rw [List.filterMap_cons_some (f := Happening.added?) rfl, String.join_cons,
        ← String.append_assoc]
      exact ih
    | took | cleared =>
      obtain ⟨-, rfl⟩ := hx
      rw [Scene.after, String.empty_append] at ih
      rw [List.filterMap_cons_some (f := Happening.removed?) rfl, String.join_cons,
        String.append_assoc, ← ih]
      rfl
    | _ => exact ih

end Leads

end LedBoard.Output
