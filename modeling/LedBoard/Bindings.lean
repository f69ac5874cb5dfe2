/-!
# Bindings

What keys stand for: names in a program, or numbers that were given out.

* `Bindings.bind`, `Bindings.unbind`: one key stands for something else, or for nothing any
  more; the other keys keep what they stand for.
-/

namespace LedBoard

/-- What keys stand for, if anything. -/
abbrev Bindings (κ α : Type) := κ → Option α

namespace Bindings

variable {κ α : Type}

/-- No key stands for anything. -/
def empty : Bindings κ α := fun _ => none

variable [DecidableEq κ]

/-- Binds a key, which may have been bound before. -/
def bind (b : Bindings κ α) (key : κ) (a : α) : Bindings κ α :=
  fun k => if k = key then some a else b k

/-- Lets go of a key. -/
def unbind (b : Bindings κ α) (key : κ) : Bindings κ α :=
  fun k => if k = key then none else b k

/-- A key that was bound stands for what it was bound to. -/
theorem bind_self (b : Bindings κ α) (key : κ) (a : α) : b.bind key a key = some a := if_pos rfl

/-- Binding a key is nothing to the others. -/
theorem bind_ne (b : Bindings κ α) {key k : κ} (h : k ≠ key) (a : α) : b.bind key a k = b k :=
  if_neg h

theorem unbind_self (b : Bindings κ α) (key : κ) : b.unbind key key = none := if_pos rfl

/-- Letting go of a key is nothing to the others. -/
theorem unbind_ne (b : Bindings κ α) {key k : κ} (h : k ≠ key) : b.unbind key k = b k := if_neg h

end Bindings

end LedBoard
