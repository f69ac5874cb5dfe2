import LedBoard.Script.Exception
import Mathlib.Tactic.Common

/-!
# Classes by name

Scripts know the classes of exceptions by their names, so the classes are a table of names, each
with the name of the parent. Whether a class derives from another can be told by this table
alone: by walking up from its name, from parent to parent, until the name of the other class
comes up. The walk comes to its end from every name, also from one that is in no table.

* `table`, `climb`: the table, and the walk;
* `mem_table_iff`, `Exception.name_classOfKind`: which strings come to be classes, and which;
* `climb_three`: no walk is longer;
* `derivesFrom_iff_climb`: the walk tells what a class derives from;
* `Exception.asksToExit_iff`: the exceptions that ask to end the program.
-/

namespace LedBoard.Script

namespace ExceptionClass

theorem name_injective {c d : ExceptionClass} (h : c.name = d.name) : c = d := by
  revert h
  cases c <;> cases d <;> decide

theorem mem_all (c : ExceptionClass) : c ∈ all := by cases c <;> decide

/-- A class is found by its own name only. -/
theorem name_of_ofName? {n : String} {c : ExceptionClass} (h : ofName? n = some c) :
    c.name = n := by
  have hfound := List.find?_some h
  exact of_decide_eq_true hfound

/-- The classes by name, each with the name of its parent; the root has none. -/
def table : List (String × String) := all.map fun c => (c.name, (c.parent.map name).getD "")

/-- The name of the parent of the class of a name. -/
def parentName? (n : String) : Option String := (table.lookup n).filter (· ≠ "")

/-- Where a walk up the parents comes to with so many steps. -/
def climb : Nat → String → Option String
  | 0, n => some n
  | k + 1, n => parentName? n >>= climb k

/-- Every class is in the table, by its name. -/
theorem name_mem_table (c : ExceptionClass) : c.name ∈ table.map (·.1) := by
  rw [table, List.map_map]
  exact List.mem_map_of_mem c.mem_all

/-- A string comes to be a class just if it is a name in the table. -/
theorem mem_table_iff {n : String} : n ∈ table.map (·.1) ↔ ∃ c, ofName? n = some c := by
  constructor
  · intro hn
    rw [table, List.map_map] at hn
    obtain ⟨c, hc, rfl⟩ := List.mem_map.1 hn
    exact Option.isSome_iff_exists.1 (List.find?_isSome.2 ⟨c, hc, decide_eq_true rfl⟩)
  · rintro ⟨c, hc⟩
    exact name_of_ofName? hc ▸ c.name_mem_table

theorem parentName?_name (c : ExceptionClass) : parentName? c.name = c.parent.map name := by
  cases c <;> decide

theorem parentName?_of_none {n : String} (h : ofName? n = none) : parentName? n = none := by
  have hlookup : table.lookup n = none := by
    rw [List.lookup_eq_none_iff]
    intro x hx
    obtain ⟨c, hc, rfl⟩ := List.mem_map.1 hx
    have hne : ¬c.name = n := by simpa using List.find?_eq_none.1 h c hc
    exact bne_iff_ne.2 (Ne.symm hne)
  rw [parentName?, hlookup, Option.filter_none]

/-- The walk from the name of a class goes by its parent. -/
theorem climb_succ_name (k : Nat) (c : ExceptionClass) :
    climb (k + 1) c.name = c.parent >>= fun p => climb k p.name := by
  rw [climb, parentName?_name]
  cases c.parent <;> rfl

/-- A walk up the parents has ended after two steps, wherever it began. -/
theorem climb_three (n : String) : climb 3 n = none := by
  cases h : ofName? n with
  | none =>
    rw [climb, parentName?_of_none h]
    rfl
  | some c =>
    rw [← name_of_ofName? h]
    cases c <;> simp only [climb_succ_name, parent] <;> rfl

/-- A class derives from itself and from what its parent derives from. -/
theorem derivesFrom_iff {c b : ExceptionClass} :
    c.derivesFrom b = true ↔ c = b ∨ ∃ p, c.parent = some p ∧ p.derivesFrom b = true := by
  rw [derivesFrom, Bool.or_eq_true, decide_eq_true_iff]
  refine or_congr_right ?_
  split
  next p hp => simp [hp]
  next hnone => simp [hnone]

/-- A class derives from the classes whose names the walk from its own comes to. -/
theorem derivesFrom_iff_climb {c b : ExceptionClass} :
    c.derivesFrom b = true ↔ ∃ k, climb k c.name = some b.name := by
  -- By induction on the number of parents above `c`.
  induction hdepth : c.depth using Nat.strongRecOn generalizing c with
  | ind depth ih =>
    rw [derivesFrom_iff]
    constructor
    · rintro (rfl | ⟨p, hp, hderives⟩)
      · exact ⟨0, rfl⟩
      · obtain ⟨k, hk⟩ := (ih p.depth (hdepth ▸ depth_parent hp) rfl).1 hderives
        exact ⟨k + 1, by rw [climb_succ_name, hp]; exact hk⟩
    · rintro ⟨_ | k, hk⟩
      · exact .inl (name_injective (Option.some.inj hk))
      · rw [climb_succ_name] at hk
        obtain ⟨p, hp, hk⟩ := Option.bind_eq_some_iff.1 hk
        exact .inr ⟨p, hp, (ih p.depth (hdepth ▸ depth_parent hp) rfl).2 ⟨k, hk⟩⟩

end ExceptionClass

/-- The refusal of a native function becomes an exception of the class that it names. -/
theorem Exception.name_classOfKind (k : ErrorKind) : (classOfKind k).name = k.name := by
  cases k <;> rfl

/-- An exception asks to end the program just if it is of one of two classes. -/
theorem Exception.asksToExit_iff {e : Exception} :
    e.asksToExit = true ↔ e.kind.name = "SystemExit" ∨ e.kind.name = "ShutdownExit" := by
  obtain ⟨kind, message⟩ := e
  cases kind <;>
    simp [asksToExit, ExceptionClass.derivesFrom, ExceptionClass.parent, ExceptionClass.name]

end LedBoard.Script
