import LedBoard.Proofs.Output.Scene
import Mathlib.Data.List.Basic

/-!
# Buffers in use

Buffers are used through handles, of which several may stand for one buffer. What a handle stands
for never changes, and what becomes of a buffer depends on nothing but what is asked of it through
the handles that stand for it (`buffers_serveAll`). So it is enough to know what happens to one
buffer of which something is asked time and again (`Buffer.history`), and this is in order
(`Lawful`): every chunk is told once to the listener in place, none is entered while it is acting,
and no text is lost.

* `lawful_history`: whatever is asked of a buffer;
* `output_law`: the statements together.
-/

namespace LedBoard.Output

open Scene (calm)

/-- What can be asked of a buffer. -/
inductive Request
  | append (chunk : String)
  | take
  | clear
  | listen (l : Listener)

namespace Buffer

/-- The buffer after a request. -/
def serve (b : Buffer) : Request → Buffer
  | .append chunk => (b.append chunk).1
  | .take => b.take.2
  | .clear => b.clear
  | .listen l => b.listen l

/-- The buffer after requests. -/
def serveAll (b : Buffer) (rs : List Request) : Buffer := rs.foldl serve b

/-- What happens at a request. -/
def happened (b : Buffer) : Request → List Happening
  | .append chunk => b.happenings chunk
  | .take => [.took b.take.1]
  | .clear => [.cleared b.text]
  | .listen l => [.installed l]

/-- What happens at requests. -/
def history (b : Buffer) : List Request → List Happening
  | [] => []
  | r :: rs => b.happened r ++ (b.serve r).history rs

end Buffer

theorem leads_serve (b : Buffer) (r : Request) :
    Leads (calm b []) (b.happened r) (calm (b.serve r) []) := by
  cases r with
  | append chunk => exact leads_append b chunk
  | take => exact .cons ⟨rfl, rfl⟩ (.nil _)
  | clear => exact .cons ⟨rfl, rfl⟩ (.nil _)
  | listen l => exact .cons rfl (.nil _)

/-- A whole history is allowed step by step. -/
theorem leads_history (b : Buffer) (rs : List Request) :
    Leads (calm b []) (b.history rs) (calm (b.serveAll rs) []) := by
  induction rs generalizing b with
  | nil => exact .nil _
  | cons r rs ih => exact (leads_serve b r).append (ih (b.serve r))

/-- What happens to a buffer from one state to another is in order: a chunk that is added is no
    empty one, and the listener in place is told of it at once; a listener is told of nothing
    else, and of nothing while it is acting; what is taken or dropped is the whole text; and of
    the text and what is added to it, a part is removed, and then comes what is left. -/
structure Lawful (b : Buffer) (xs : List Happening) (b' : Buffer) : Prop where
  added : ∀ before chunk after, xs = before ++ .added chunk :: after →
    chunk ≠ "" ∧ ∀ l ∈ ((calm b []).afterAll before).place, ∃ rest, after = .told l chunk :: rest
  told : ∀ before l chunk after, xs = before ++ .told l chunk :: after →
    l ∉ ((calm b []).afterAll before).running ∧
      ∃ rest, before = rest ++ [.added chunk] ∧ ((calm b []).afterAll rest).place = some l
  removed : ∀ before x after text, xs = before ++ x :: after → x.removed? = some text →
    text = ((calm b []).afterAll before).text
  final : (calm b []).afterAll xs = calm b' []
  conserved : b.text ++ String.join (xs.filterMap Happening.added?) =
    String.join (xs.filterMap Happening.removed?) ++ b'.text

theorem Leads.lawful {b b' : Buffer} {xs : List Happening}
    (h : Leads (calm b []) xs (calm b' [])) : Lawful b xs b' where
  added _ _ _ hxs := of_added (hxs ▸ h) rfl
  told _ _ _ _ hxs := of_told (hxs ▸ h) rfl
  removed _ _ _ _ hxs hx := of_removed (hxs ▸ h) hx
  final := h.eq_afterAll
  conserved := h.conserved

/-! ## Handles -/

/-- What can be done with handles. -/
inductive Use
  | create
  | clone (h : Nat)
  /-- Something is asked of the buffer of a handle. -/
  | ask (h : Nat) (r : Request)

namespace Buffers

/-- The buffers after a use; of a handle that is not there nothing can be asked. -/
def serve (s : Buffers) : Use → Buffers
  | .create => s.create
  | .clone h => s.clone h
  | .ask h r =>
    match s.get? h with
    | some b => s.set h (b.serve r)
    | none => s

/-- The buffers after uses. -/
def serveAll (s : Buffers) (us : List Use) : Buffers := us.foldl serve s

/-- What a use asks of the buffer at a place. -/
def asked (s : Buffers) (i : Nat) : Use → List Request
  | .ask h r => if s.handles[h]? = some i then [r] else []
  | _ => []

/-- What uses ask of the buffer at a place. -/
def askedAll (s : Buffers) (i : Nat) : List Use → List Request
  | [] => []
  | u :: us => s.asked i u ++ (s.serve u).askedAll i us

variable {s : Buffers}

/-- What a handle stands for never changes. -/
theorem handles_serve (u : Use) {h i : Nat} (hi : s.handles[h]? = some i) :
    (s.serve u).handles[h]? = some i := by
  have hlength := (List.getElem?_eq_some_iff.1 hi).1
  cases u with
  | create => exact (List.getElem?_append_left hlength).trans hi
  | clone g =>
    rw [serve, clone]
    split
    · exact (List.getElem?_append_left hlength).trans hi
    · exact hi
  | ask g r =>
    rw [serve]
    split
    · rw [set]
      split <;> exact hi
    · exact hi

theorem handles_serveAll (us : List Use) {h i : Nat} (hi : s.handles[h]? = some i) :
    (s.serveAll us).handles[h]? = some i := by
  induction us generalizing s with
  | nil => exact hi
  | cons u us ih => exact ih (handles_serve u hi)

/-- What is asked of a handle is asked of the buffer it stands for. -/
theorem buffers_ask {g j : Nat} (hg : s.handles[g]? = some j) (r : Request) :
    (s.serve (.ask g r)).buffers = s.buffers.modify j (·.serve r) := by
  have hget : s.get? g = s.buffers[j]? := by
    rw [get?, hg]
    rfl
  rw [serve, hget, List.modify_eq_set_getElem?]
  cases s.buffers[j]? with
  | none => rfl
  | some b =>
    dsimp only
    rw [set, hg]
    rfl

/-- One use does to a buffer what it asks of it. -/
theorem buffers_serve (u : Use) {i : Nat} {b : Buffer} (hb : s.buffers[i]? = some b) :
    (s.serve u).buffers[i]? = some (b.serveAll (s.asked i u)) := by
  cases u with
  | create =>
    exact (List.getElem?_append_left (List.getElem?_eq_some_iff.1 hb).1).trans hb
  | clone g =>
    rw [serve, clone]
    split <;> exact hb
  | ask g r =>
    cases hg : s.handles[g]? with
    | none =>
      rw [asked, serve, get?, hg]
      exact hb
    | some j =>
      rw [asked, buffers_ask hg, hg]
      by_cases hj : j = i
      · subst hj
        rw [if_pos rfl, List.getElem?_modify_eq, hb]
        rfl
      · rw [if_neg fun h => hj (Option.some.inj h), List.getElem?_modify_ne _ _ hj, hb]
        rfl

/-- What becomes of a buffer depends on what is asked of it, and on nothing else. -/
theorem buffers_serveAll (us : List Use) {i : Nat} {b : Buffer} (hb : s.buffers[i]? = some b) :
    (s.serveAll us).buffers[i]? = some (b.serveAll (s.askedAll i us)) := by
  induction us generalizing s b with
  | nil => exact hb
  | cons u us ih =>
    rw [askedAll, Buffer.serveAll, List.foldl_append]
    exact ih (buffers_serve u hb)

/-- Handles that stand for one buffer show the same. -/
theorem get?_serveAll (us : List Use) {g h i : Nat} (hg : s.handles[g]? = some i)
    (hh : s.handles[h]? = some i) : (s.serveAll us).get? g = (s.serveAll us).get? h := by
  rw [get?, get?, handles_serveAll us hg, handles_serveAll us hh]

/-- The clone of a handle is the next handle, and stands for the same buffer. -/
theorem handles_clone {h i : Nat} (hi : s.handles[h]? = some i) :
    (s.clone h).handles[s.handles.length]? = some i := by
  rw [clone, hi]
  exact List.getElem?_concat_length

end Buffers

theorem lawful_history (b : Buffer) (rs : List Request) :
    Lawful b (b.history rs) (b.serveAll rs) :=
  (leads_history b rs).lawful

/-- A clone shows the same as its origin, whatever is done with the handles before and after, and
    what becomes of a buffer depends on what is asked of it alone. All that happens to a buffer is
    in order. An append happens by the rule, and in no other way: an empty one changes nothing;
    another adds the chunk, the listener in place is told of it before anything else, whatever
    it appends is added as well, and afterwards the last listener that was installed is in place,
    or the same as before. -/
theorem output_law :
    (∀ (s : Buffers) (us : List Use) (g i : Nat), s.handles[g]? = some i →
      (∀ h, s.handles[h]? = some i → (s.serveAll us).get? h = (s.serveAll us).get? g) ∧
      ((s.clone g).serveAll us).get? s.handles.length = ((s.clone g).serveAll us).get? g) ∧
    (∀ (s : Buffers) (us : List Use) (i : Nat) (b : Buffer), s.buffers[i]? = some b →
      (s.serveAll us).buffers[i]? = some (b.serveAll (s.askedAll i us))) ∧
    (∀ (b : Buffer) (rs : List Request), Lawful b (b.history rs) (b.serveAll rs)) ∧
    ∀ (b : Buffer) (chunk : String),
      (∀ xs b', Appended b chunk xs b' ↔ xs = b.happenings chunk ∧ b' = (b.append chunk).1) ∧
      (b.append chunk).2 = (b.happenings chunk).filterMap Happening.note? ∧
      (chunk = "" → b.append chunk = (b, []) ∧ b.happenings chunk = []) ∧
      (chunk ≠ "" → (∃ rest, b.happenings chunk = .added chunk :: rest) ∧
        (b.happenings chunk).filterMap Happening.added? =
          chunk :: b.listener.toList.flatMap fun l => l.acts.filterMap Act.chunk?) ∧
      (b.append chunk).1.listener = (lastInstalled (b.happenings chunk)).or b.listener := by
  refine ⟨fun s us g i hg => ⟨fun h hh => Buffers.get?_serveAll us hh hg, ?_⟩,
    fun s us i b hb => Buffers.buffers_serveAll us hb, lawful_history, fun b chunk =>
    ⟨fun _ _ => appended_iff, note_append b chunk, ?_, fun hchunk => ⟨?_, added_append b hchunk⟩,
      append_listener b chunk⟩⟩
  · exact Buffers.get?_serveAll us (Buffers.handles_clone hg) (Buffers.handles_serve (.clone g) hg)
  · rintro rfl
    exact ⟨rfl, rfl⟩
  · exact ⟨_, if_neg (mt String.isEmpty_iff.1 hchunk)⟩

/-- A listener that installs another one between two appends of its own. -/
example :
    let q : Listener := .quiet "q"
    let l : Listener := ⟨"l", [.append "b", .install "q", .append "c"]⟩
    (⟨"", some l⟩ : Buffer).happenings "a" =
      [.added "a", .told l "a", .added "b", .installed q, .added "c", .told q "c", .finished q,
        .finished l] := by
  decide

end LedBoard.Output
