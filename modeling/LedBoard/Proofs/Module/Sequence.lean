import LedBoard.Proofs.Module.Building
import Mathlib.Data.List.Induction

/-!
# Modules from sequences of calls

A module is the same whenever the same calls have been made on a new one, as far as their order
can matter: that of the imports among themselves, and that of the functions given under one name.
How the calls of different kinds, or for different names, stand to each other leaves no trace,
neither in the module nor in its text.

The functions are kept in the order of their names, so they are determined by what each name
stands for (`Increasing.ext`), and that is what was given last under the name (`function?_build`).

* `function?_build`, `imports_build`: a module in terms of the calls;
* `Reordered.build_eq`: calls in another order;
* `build_law`: the statements together.
-/

namespace LedBoard.Module

variable {σ : Type}

/-- A call that builds a module up. -/
inductive Call (σ : Type)
  | function (name : String) (f : Native σ)
  | addImport (name : String)

namespace Call

/-- The module after a call. -/
def on (m : Module σ) : Call σ → Module σ
  | .function name f => m.function name f
  | .addImport name => m.addImport name

/-- The function that a call gives under a name. -/
def given? (name : String) : Call σ → Option (Native σ)
  | .function n f => if n = name then some f else none
  | .addImport _ => none

/-- The import that a call gives. -/
def import? : Call σ → Option String
  | .function _ _ => none
  | .addImport name => some name

end Call

/-- What calls make of the new module of a name. -/
def build (name : String) (calls : List (Call σ)) : Module σ := calls.foldl Call.on (.empty name)

/-- The functions that calls give under a name, in order. -/
def given (name : String) (calls : List (Call σ)) : List (Native σ) :=
  calls.filterMap (Call.given? name)

/-- The imports that calls give, in order and with repetitions. -/
def imported (calls : List (Call σ)) : List String := calls.filterMap Call.import?

variable {calls calls' : List (Call σ)}

theorem build_concat (name : String) (calls : List (Call σ)) (c : Call σ) :
    build name (calls ++ [c]) = c.on (build name calls) :=
  List.foldl_concat ..

theorem built_build (name : String) (calls : List (Call σ)) : (build name calls).Built := by
  induction calls using List.reverseRecOn with
  | nil => exact .empty name
  | append_singleton calls c ih =>
    rw [build_concat]
    cases c with
    | function n f => exact ih.function n f
    | addImport n => exact ih.addImport n

/-- The functions that calls give for a name are those of the calls with this name. -/
theorem mem_given {n : String} {f : Native σ} : f ∈ given n calls ↔ .function n f ∈ calls := by
  rw [given, List.mem_filterMap]
  constructor
  · rintro ⟨c, hc, hf⟩
    cases c with
    | function n' f' =>
      obtain ⟨rfl, rfl⟩ : n' = n ∧ f' = f := by simpa [Call.given?] using hf
      exact hc
    | addImport n' => contradiction
  · intro h
    exact ⟨_, h, if_pos rfl⟩

/-! ## A module in terms of the calls -/

theorem lookup_cons_eq (n n' : String) (g : Native σ) (rest : List (String × Native σ)) :
    ((n', g) :: rest).lookup n = if n = n' then some g else rest.lookup n := by
  rw [List.lookup_cons]
  split_ifs with h
  · rw [beq_iff_eq.2 h]
  · rw [beq_eq_false_iff_ne.2 h]

/-- A function is found under its name once it has been put there, and no other name is affected. -/
theorem lookup_insertFunction (name : String) (f : Native σ) (fs : List (String × Native σ))
    (n : String) :
    (insertFunction name f fs).lookup n = if n = name then some f else fs.lookup n := by
  induction fs with
  | nil => exact lookup_cons_eq ..
  | cons a rest ih =>
    obtain ⟨n', g⟩ := a
    rw [insertFunction]
    by_cases hlt : name < n'
    · rw [if_pos hlt, lookup_cons_eq]
    rw [if_neg hlt]
    by_cases heq : name = n'
    · subst heq
      rw [if_pos rfl, lookup_cons_eq, lookup_cons_eq]
      by_cases hn : n = name
      · rw [if_pos hn, if_pos hn]
      · rw [if_neg hn, if_neg hn, if_neg hn]
    · rw [if_neg heq, lookup_cons_eq, lookup_cons_eq, ih]
      by_cases hn : n = n'
      · subst hn
        rw [if_pos rfl, if_neg (Ne.symm heq), if_pos rfl]
      · rw [if_neg hn, if_neg hn]

/-- The function of a module under a name is the last one given for it. -/
theorem function?_build (name : String) (calls : List (Call σ)) (n : String) :
    (build name calls).function? n = (given n calls).getLast? := by
  -- By induction from the last call: a function takes its name over, and all else leaves it.
  induction calls using List.reverseRecOn with
  | nil => rfl
  | append_singleton calls c ih =>
    rw [build_concat, given, List.filterMap_append, ← given]
    cases c with
    | function n' f =>
      change (insertFunction n' f _).lookup n = _
      rw [lookup_insertFunction]
      by_cases hn : n = n'
      · subst hn
        have hc : [Call.function n f].filterMap (Call.given? n) = [f] := by simp [Call.given?]
        rw [if_pos rfl, hc, List.getLast?_concat]
      · have hc : [Call.function n' f].filterMap (Call.given? n) = [] := by
          simp [Call.given?, Ne.symm hn]
        rw [if_neg hn, hc, List.append_nil]
        exact ih
    | addImport n' =>
      rw [show [Call.addImport n'].filterMap (Call.given? n) = ([] : List (Native σ)) from rfl,
        List.append_nil]
      exact ih

/-- The imports of a module are all that were added, in the order of the calls and as often. -/
theorem imports_build (name : String) (calls : List (Call σ)) :
    (build name calls).imports = imported calls := by
  induction calls using List.reverseRecOn with
  | nil => rfl
  | append_singleton calls c ih =>
    rw [build_concat, imported, List.filterMap_append, ← imported, ← ih]
    cases c with
    | function n f => exact (List.append_nil _).symm
    | addImport n => rfl

theorem name_build (name : String) (calls : List (Call σ)) : (build name calls).name = name := by
  induction calls using List.reverseRecOn with
  | nil => rfl
  | append_singleton calls c ih =>
    rw [build_concat]
    cases c <;> exact ih

/-- A module has the functions whose names some call gives, and no others. -/
theorem mem_functionNames_build (name : String) (calls : List (Call σ)) (n : String) :
    n ∈ (build name calls).functionNames ↔ ∃ f, .function n f ∈ calls := by
  have hfound : n ∈ (build name calls).functionNames ↔
      ((build name calls).function? n).isSome = true := by
    rw [function?, List.lookup_isSome_iff, functionNames, List.mem_map]
    exact ⟨fun ⟨a, ha, hn⟩ => ⟨a, ha, beq_iff_eq.2 hn.symm⟩,
      fun ⟨a, ha, hn⟩ => ⟨a, ha, (beq_iff_eq.1 hn).symm⟩⟩
  rw [hfound, function?_build, List.getLast?_isSome]
  constructor
  · intro hne
    obtain ⟨f, hf⟩ := List.exists_mem_of_ne_nil _ hne
    exact ⟨f, mem_given.1 hf⟩
  · rintro ⟨f, hf⟩
    exact List.ne_nil_of_mem (mem_given.2 hf)

/-! ## Calls in another order -/

/-- Functions in the order of their names are determined by what each name stands for. -/
theorem Increasing.ext {fs gs : List (String × Native σ)} (hfs : Increasing fs)
    (hgs : Increasing gs) (h : ∀ n, fs.lookup n = gs.lookup n) : fs = gs := by
  have hnames : ∀ {fs : List (String × Native σ)}, Increasing fs → (fs.map (·.1)).Nodup :=
    fun hfs => List.pairwise_map.2 (hfs.imp ne_of_lt)
  have hnodup : ∀ {fs : List (String × Native σ)}, Increasing fs → fs.Nodup :=
    fun hfs => hfs.imp fun hab heq => ne_of_lt hab (congrArg Prod.fst heq)
  have hmem : ∀ a : String × Native σ, a ∈ fs ↔ a ∈ gs := by
    rintro ⟨n, f⟩
    rw [← lookup_eq_some_iff (hnames hfs), ← lookup_eq_some_iff (hnames hgs), h]
  have hperm : fs.Perm gs := (List.perm_ext_iff_of_nodup (hnodup hfs) (hnodup hgs)).2 hmem
  exact hperm.eq_of_pairwise (fun _ _ _ _ hab hba => absurd hba (lt_asymm hab)) hfs hgs

theorem eq_of_fields {m m' : Module σ} (hname : m.name = m'.name)
    (hfunctions : m.functions = m'.functions) (himports : m.imports = m'.imports) : m = m' := by
  cases m
  cases m'
  cases hname
  cases hfunctions
  cases himports
  rfl

/-- The same calls in orders that agree on the imports, and on the functions of every name. -/
structure Reordered (calls calls' : List (Call σ)) : Prop where
  imports : imported calls' = imported calls
  functions : ∀ n, given n calls' = given n calls

/-- A thing is there as often as what a function gives for it and for nothing else. -/
theorem count_eq_of_filterMap {α β : Type} [DecidableEq α] [DecidableEq β] {f : α → Option β}
    {a : α} {b : β} (hf : ∀ x, f x = some b ↔ x = a) (xs : List α) :
    xs.count a = (xs.filterMap f).count b := by
  rw [List.count_filterMap, List.count]
  refine List.countP_congr fun x _ => ?_
  rw [beq_iff_eq, beq_iff_eq, hf]

namespace Reordered

/-- Calls that agree on these orders are the same calls, each made as often. -/
theorem perm (h : Reordered calls calls') : calls'.Perm calls := by
  classical
  rw [List.perm_iff_count]
  intro c
  cases c with
  | function n f =>
    have hgiven : ∀ c : Call σ, c.given? n = some f ↔ c = .function n f := by
      intro c
      cases c <;> simp [Call.given?]
    rw [count_eq_of_filterMap hgiven, count_eq_of_filterMap hgiven, ← given, ← given, h.functions]
  | addImport n =>
    have himport : ∀ c : Call σ, c.import? = some n ↔ c = .addImport n := by
      intro c
      cases c <;> simp [Call.import?]
    rw [count_eq_of_filterMap himport, count_eq_of_filterMap himport, ← imported, ← imported,
      h.imports]

/-- Calls that keep the order of the imports, and for every name the order of its functions, build
    the same module. -/
theorem build_eq (h : Reordered calls calls') (name : String) :
    build name calls' = build name calls := by
  have hfunctions : (build name calls').functions = (build name calls).functions := by
    refine (built_build name calls').functions_increasing.ext
      (built_build name calls).functions_increasing fun n => ?_
    change (build name calls').function? n = (build name calls).function? n
    rw [function?_build, function?_build, h.functions]
  have himports : (build name calls').imports = (build name calls).imports := by
    rw [imports_build, imports_build, h.imports]
  exact eq_of_fields (by rw [name_build, name_build]) hfunctions himports

end Reordered

/-- What is known of a module from the calls that have built it up. -/
theorem build_law (name : String) (calls : List (Call σ)) :
    (build name calls).functionNames.Pairwise (fun x y => Text.encode x < Text.encode y) ∧
    (∀ n, n ∈ (build name calls).functionNames ↔ ∃ f, .function n f ∈ calls) ∧
    (∀ n, (build name calls).function? n = (given n calls).getLast?) ∧
    (build name calls).imports = imported calls ∧
    ∀ calls', Reordered calls calls' → build name calls' = build name calls ∧
      (build name calls').describe = (build name calls).describe := by
  refine ⟨(built_build name calls).increasing, mem_functionNames_build name calls,
    function?_build name calls, imports_build name calls, fun calls' h => ?_⟩
  have hbuild := h.build_eq name
  exact ⟨hbuild, congrArg describe hbuild⟩

-- Every name stands there once, behind those with lesser octets, every import as it was given.
example :
    (build "m" [.function "é" Native.echo, .addImport "z", .function "z" Native.echo,
      .addImport "a", .function "é" (Native.echo : Native Unit), .addImport "z"]).describe =
    "Module \x7b name: \"m\", functions: [\"z\", \"é\"], imports: [\"z\", \"a\", \"z\"] \x7d" := by
  decide +kernel

end LedBoard.Module
