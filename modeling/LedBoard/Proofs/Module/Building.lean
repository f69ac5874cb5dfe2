import LedBoard.Module
import LedBoard.Proofs.Text.Octets

/-!
# Building modules

However a module is built up, its functions are in the order of their names, and no two of them
have the same name.

* `Built`: the modules that can be built;
* `Built.increasing`: the names of the functions increase, as texts and as octets;
* `function?_eq_some_iff`: the functions found by name.
-/

namespace LedBoard.Module

variable {σ : Type}

/-- A function of a module is the one that was just put there, or was there before. -/
theorem mem_insertFunction {name : String} {f : Native σ} {a : String × Native σ} :
    ∀ {fs : List (String × Native σ)}, a ∈ insertFunction name f fs → a = (name, f) ∨ a ∈ fs
  | [], ha => .inl (List.mem_singleton.1 ha)
  | (n, g) :: rest, ha => by
    rw [insertFunction] at ha
    split at ha
    · exact List.mem_cons.1 ha
    · split at ha
      · exact (List.mem_cons.1 ha).imp id (List.mem_cons_of_mem _)
      · rcases List.mem_cons.1 ha with rfl | ha
        · exact .inr List.mem_cons_self
        · exact (mem_insertFunction ha).imp id (List.mem_cons_of_mem _)

/-- What is true of the functions of a module, and of one more, is true of them together. -/
theorem forall_mem_function {m : Module σ} {P : String × Native σ → Prop}
    (hm : ∀ a ∈ m.functions, P a) {name : String} {f : Native σ} (hf : P (name, f)) :
    ∀ a ∈ (m.function name f).functions, P a := by
  intro a ha
  rcases mem_insertFunction ha with rfl | ha
  · exact hf
  · exact hm a ha

/-! ## The order of the functions -/

/-- Functions are in the order of their names. -/
def Increasing (fs : List (String × Native σ)) : Prop := fs.Pairwise fun a b => a.1 < b.1

/-- A function is put in its place by its name, or replaces the one of the same name. -/
theorem Increasing.insertFunction {fs : List (String × Native σ)} (h : Increasing fs)
    (name : String) (f : Native σ) : Increasing (insertFunction name f fs) := by
  induction fs with
  | nil => exact List.pairwise_singleton _ _
  | cons a rest ih =>
    obtain ⟨n, g⟩ := a
    obtain ⟨hn, hrest⟩ := List.pairwise_cons.1 h
    rw [Module.insertFunction]
    split_ifs with hlt heq
    · refine List.pairwise_cons.2 ⟨fun b hb => ?_, h⟩
      rcases List.mem_cons.1 hb with rfl | hb
      · exact hlt
      · exact hlt.trans (hn b hb)
    · subst heq
      exact List.pairwise_cons.2 ⟨hn, hrest⟩
    · refine List.pairwise_cons.2 ⟨fun b hb => ?_, ih hrest⟩
      rcases mem_insertFunction hb with rfl | hb
      · exact (lt_trichotomy name n).resolve_left hlt |>.resolve_left heq
      · exact hn b hb

/-- The modules that are built up from an empty one, function by function and import by
    import. -/
inductive Built : Module σ → Prop
  | empty (name : String) : Built (.empty name)
  | function {m : Module σ} (h : Built m) (name : String) (f : Native σ) :
      Built (m.function name f)
  | addImport {m : Module σ} (h : Built m) (name : String) : Built (m.addImport name)

namespace Built

variable {m : Module σ}

theorem functions_increasing (h : m.Built) : Increasing m.functions := by
  induction h with
  | empty name => exact List.Pairwise.nil
  | function _ name f ih => exact ih.insertFunction name f
  | addImport _ name ih => exact ih

/-- The names of the functions increase in the order of their octets. -/
theorem increasing (h : m.Built) :
    m.functionNames.Pairwise fun x y => Text.encode x < Text.encode y :=
  List.pairwise_map.2 (h.functions_increasing.imp Text.encode_lt_encode_iff.2)

theorem nodup (h : m.Built) : m.functionNames.Nodup :=
  List.pairwise_map.2 (h.functions_increasing.imp ne_of_lt)

end Built

/-! ## Functions by name -/

/-- Where no name is twice in a list, a name stands for what is listed with it. -/
theorem lookup_eq_some_iff {fs : List (String × Native σ)} (h : (fs.map (·.1)).Nodup)
    {name : String} {f : Native σ} : fs.lookup name = some f ↔ (name, f) ∈ fs := by
  induction fs with
  | nil => exact ⟨nofun, nofun⟩
  | cons a rest ih =>
    obtain ⟨n, g⟩ := a
    obtain ⟨hn, hrest⟩ := List.nodup_cons.1 h
    rw [List.lookup_cons, List.mem_cons, ← ih hrest]
    cases hname : name == n with
    | true =>
      obtain rfl := eq_of_beq hname
      have hother : rest.lookup name ≠ some f := fun hf =>
        hn (List.mem_map.2 ⟨(name, f), (ih hrest).1 hf, rfl⟩)
      simp [hother, eq_comm]
    | false => simp [ne_of_beq_false hname]

/-- A function is found by its name, where no two functions have the same. -/
theorem function?_eq_some_iff {m : Module σ} (h : m.functionNames.Nodup) {name : String}
    {f : Native σ} : m.function? name = some f ↔ (name, f) ∈ m.functions :=
  lookup_eq_some_iff h

end LedBoard.Module
