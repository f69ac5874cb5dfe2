import Mathlib.Data.List.TakeWhile

/-!
# Runs

A run of characters of one kind ends where a character of another kind stands, or where the text
ends. So it is taken off the front of a text in the same way whatever stands behind it, as long
as that does not go on with the run.

* `takeWhile_append_of_head`, `dropWhile_append_of_head`: a run does not reach what ends it;
* `takeWhile_run`, `dropWhile_run`: a run in front of what ends it.
-/

namespace LedBoard

variable {α : Type} {p : α → Bool} {s t run r : List α}

/-- A run goes no further into what is behind a list, if that does not go on with it. -/
theorem takeWhile_append_of_head (h : ∀ a ∈ t.head?, p a = false) :
    (s ++ t).takeWhile p = s.takeWhile p := by
  have ht : t.takeWhile p = [] := by
    cases t with
    | nil => rfl
    | cons a t => exact List.takeWhile_cons_of_neg (by simpa using h a rfl)
  induction s with
  | nil => exact ht
  | cons a s ih => rw [List.cons_append, List.takeWhile_cons, List.takeWhile_cons, ih]

theorem dropWhile_append_of_head (h : ∀ a ∈ t.head?, p a = false) :
    (s ++ t).dropWhile p = s.dropWhile p ++ t := by
  have ht : t.dropWhile p = t := by
    cases t with
    | nil => rfl
    | cons a t => exact List.dropWhile_cons_of_neg (by simpa using h a rfl)
  induction s with
  | nil => exact ht
  | cons a s ih =>
    rw [List.cons_append, List.dropWhile_cons, List.dropWhile_cons, ih]
    split <;> rfl

/-- A run that ends within a list ends there whatever is behind the list. -/
theorem takeWhile_append_of_dropWhile {a : α} (t : List α)
    (h : s.dropWhile p = a :: r) : (s ++ t).takeWhile p = s.takeWhile p := by
  induction s with
  | nil => exact absurd h (by simp)
  | cons b s ih =>
    rw [List.cons_append, List.takeWhile_cons, List.takeWhile_cons]
    rw [List.dropWhile_cons] at h
    split
    · next hb =>
      rw [if_pos hb] at h
      rw [ih h]
    · rfl

/-- What is left behind a run that ends within a list is left whatever is behind the list. -/
theorem dropWhile_append_of_dropWhile {a : α} (t : List α)
    (h : s.dropWhile p = a :: r) : (s ++ t).dropWhile p = a :: (r ++ t) := by
  rw [List.dropWhile_append, h]
  rfl

/-- A run that does not go on is what is taken of it. -/
theorem takeWhile_run (h : ∀ a ∈ run, p a = true) (hr : ∀ a ∈ r.head?, p a = false) :
    (run ++ r).takeWhile p = run := by
  rw [takeWhile_append_of_head hr]
  exact List.takeWhile_eq_self_iff.2 h

theorem dropWhile_run (h : ∀ a ∈ run, p a = true) (hr : ∀ a ∈ r.head?, p a = false) :
    (run ++ r).dropWhile p = r := by
  rw [dropWhile_append_of_head hr, List.dropWhile_eq_nil_iff.2 h]
  rfl

/-- What is left behind a run does not go on with it. -/
theorem head?_dropWhile (p : α → Bool) (s : List α) : ∀ a ∈ (s.dropWhile p).head?, p a = false := by
  intro a ha
  have := List.head?_dropWhile_not p s
  rw [ha] at this
  exact this

end LedBoard
