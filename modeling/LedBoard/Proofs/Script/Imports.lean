import LedBoard.Proofs.Module.Building
import LedBoard.Proofs.Script.Unmentioned
import Mathlib.Data.List.Nodup

/-!
# Two ways to the names of a module

A script can import everything that a module has, so that it finds the functions and the imports
of the module among its own names, or it can import the module alone and take them as its
attributes. Both lead to the same objects, with one difference: a name that is both of a function
and of an import stands for the import in the first way, since the imports are bound last, and
for the function in the second.

Importing everything fails if an import of the module is not registered, and then everything
before it is bound already. In which order the functions are bound makes no difference.

* `bindFunctions_perm`: functions of different names, in any order;
* `bindModules_of_registered`, `bindModules_of_missing`: the two ways in which binding the imports
  can end;
* `imports_agree`: the two ways compared.
-/

namespace LedBoard.Script.Interpreter

variable {σ : Type}

/-! ## Functions -/

theorem bind_comm (i : Interpreter σ) {a b : String} (h : a ≠ b) (o p : Object σ) :
    (i.bind a o).bind b p = (i.bind b p).bind a o := by
  have hglobals : (i.globals.bind a o).bind b p = (i.globals.bind b p).bind a o := by
    funext n
    by_cases ha : n = a
    · subst ha
      rw [Bindings.bind_ne _ h, Bindings.bind_self, Bindings.bind_self]
    · by_cases hb : n = b
      · subst hb
        rw [Bindings.bind_self, Bindings.bind_ne _ ha, Bindings.bind_self]
      · rw [Bindings.bind_ne _ hb, Bindings.bind_ne _ ha, Bindings.bind_ne _ ha,
          Bindings.bind_ne _ hb]
  exact congrArg (fun g => { i with globals := g }) hglobals

/-- Functions of different names can be bound in any order. -/
theorem bindFunctions_perm {fs gs : List (String × Native σ)} (h : fs.Perm gs)
    (hnodup : (fs.map (·.1)).Nodup) (i : Interpreter σ) :
    i.bindFunctions fs = i.bindFunctions gs := by
  refine h.foldl_eq' (fun x hx y hy j => ?_) i
  by_cases hname : x.1 = y.1
  · rw [List.inj_on_of_nodup_map hnodup hx hy hname]
  · exact bind_comm j hname _ _

/-- Of functions of different names, a name stands for the one it belongs to afterwards, and for
    what it stood for before if there is none. -/
theorem bindFunctions_globals_eq {fs : List (String × Native σ)} (hnodup : (fs.map (·.1)).Nodup)
    (i : Interpreter σ) (n : String) :
    (i.bindFunctions fs).globals n =
      ((fs.lookup n).map (Object.function n)).or (i.globals n) := by
  induction fs generalizing i with
  | nil => rfl
  | cons x rest ih =>
    obtain ⟨name, f⟩ := x
    obtain ⟨hname, hrest⟩ := List.nodup_cons.1 hnodup
    change ((i.bind name (.function name f)).bindFunctions rest).globals n = _
    rw [List.lookup_cons]
    cases hn : n == name with
    | true =>
      obtain rfl := eq_of_beq hn
      rw [bindFunctions_globals hname]
      exact i.globals.bind_self _ _
    | false =>
      rw [ih hrest]
      exact congrArg _ (bind_globals (ne_of_beq_false hn).symm _)

/-! ## Modules -/

/-- A module of this name can be imported. -/
def Registered (i : Interpreter σ) (name : String) : Prop := (i.modules name).isSome = true

instance (i : Interpreter σ) (name : String) : Decidable (i.Registered name) :=
  inferInstanceAs (Decidable (_ = true))

/-- The interpreter with the modules of these names bound. -/
def bindAll (i : Interpreter σ) (names : List String) : Interpreter σ :=
  names.foldl (fun i name => i.bind name (.module name)) i

/-- A name stands for the module of this name afterwards, if it is among those that were bound. -/
theorem bindAll_globals (i : Interpreter σ) (names : List String) (n : String) :
    (i.bindAll names).globals n = if n ∈ names then some (.module n) else i.globals n := by
  induction names generalizing i with
  | nil => rfl
  | cons name rest ih =>
    change ((i.bind name (.module name)).bindAll rest).globals n = _
    rw [ih]
    by_cases hrest : n ∈ rest
    · rw [if_pos hrest, if_pos (List.mem_cons_of_mem _ hrest)]
    · rw [if_neg hrest]
      by_cases hn : n = name
      · subst hn
        rw [if_pos List.mem_cons_self]
        exact i.globals.bind_self _ _
      · rw [if_neg (List.not_mem_cons_of_ne_of_not_mem hn hrest)]
        exact i.globals.bind_ne hn _

theorem moduleOf_of_registered {i : Interpreter σ} {name : String} (h : i.Registered name) :
    ∃ m, i.moduleOf name = .ok m := by
  obtain ⟨m, hm⟩ := Option.isSome_iff_exists.1 h
  exact ⟨m, by rw [moduleOf, hm]⟩

/-- Modules that are registered are all bound before any others. -/
theorem bindModules_append {i : Interpreter σ} {before : List String}
    (h : ∀ name ∈ before, i.Registered name) (rest : List String) :
    i.bindModules (before ++ rest) = (i.bindAll before).bindModules rest := by
  induction before generalizing i with
  | nil => rfl
  | cons name before ih =>
    obtain ⟨hname, hbefore⟩ := List.forall_mem_cons.1 h
    obtain ⟨m, hm⟩ := moduleOf_of_registered hname
    rw [List.cons_append, bindModules, hm]
    exact ih hbefore

/-- Modules that are all registered are all bound. -/
theorem bindModules_of_registered {i : Interpreter σ} {names : List String}
    (h : ∀ name ∈ names, i.Registered name) : i.bindModules names = (.ok (), i.bindAll names) := by
  rw [← names.append_nil, bindModules_append h, names.append_nil]
  rfl

theorem bindAll_frame (i : Interpreter σ) (names : List String) : Frame i (i.bindAll names) := by
  induction names generalizing i with
  | nil => exact .refl i
  | cons name rest ih => exact (bind_frame i name (.module name)).trans (ih _)

/-- The first module that is not registered is reported, and those before it are bound. -/
theorem bindModules_of_missing {i : Interpreter σ} {before : List String}
    (h : ∀ name ∈ before, i.Registered name) {x : String} (hx : ¬i.Registered x)
    (after : List String) :
    i.bindModules (before ++ x :: after) =
      (.error ⟨.importError, "No module named '" ++ x ++ "'"⟩, i.bindAll before) := by
  have hnone : (i.bindAll before).modules x = none := by
    rw [(bindAll_frame i before).modules]
    exact Option.not_isSome_iff_eq_none.1 hx
  rw [bindModules_append h, bindModules, moduleOf, hnone]

/-! ## The two ways -/

/-- The function of a module that has this name. -/
def functionNamed (m : Module σ) (n : String) : Option (Object σ) :=
  (m.function? n).map (.function n)

/-- The module of this name, if the name is among others. -/
def moduleNamed (names : List String) (n : String) : Option (Object σ) :=
  if n ∈ names then some (.module n) else none

theorem functionNamed_isSome {m : Module σ} (hnodup : m.functionNames.Nodup) {n : String} :
    (functionNamed m n).isSome = true ↔ n ∈ m.functionNames := by
  rw [functionNamed, Option.isSome_map, Option.isSome_iff_exists, Module.functionNames,
    List.mem_map]
  constructor
  · rintro ⟨f, hf⟩
    exact ⟨(n, f), (Module.function?_eq_some_iff hnodup).1 hf, rfl⟩
  · rintro ⟨⟨_, f⟩, hf, rfl⟩
    exact ⟨f, (Module.function?_eq_some_iff hnodup).2 hf⟩

/-- What names stand for when the functions of a module and the modules of these names were
    bound. -/
theorem bindAll_bindFunctions_globals (i : Interpreter σ) {m : Module σ}
    (hnodup : m.functionNames.Nodup) (names : List String) (n : String) :
    ((i.bindFunctions m.functions).bindAll names).globals n =
      (moduleNamed names n).or ((functionNamed m n).or (i.globals n)) := by
  rw [bindAll_globals, bindFunctions_globals_eq hnodup, moduleNamed]
  by_cases hn : n ∈ names
  · rw [if_pos hn, if_pos hn, Option.some_or]
  · rw [if_neg hn, if_neg hn, Option.none_or]
    rfl

/-- An attribute of a module that is bound by its own name. -/
theorem eval_attr {k : Interpreter σ} {name : String} {m : Module σ}
    (hm : k.modules name = some m) (hbound : k.globals name = some (.module name)) {n : String}
    {o : Object σ} (ho : (functionNamed m n).or (moduleNamed m.imports n) = some o) :
    k.eval (.attr (.name name) n) = pure o := by
  have hlookup : k.lookup name = .ok (.module name) := by rw [lookup, hbound]
  have hmodule : k.moduleOf name = .ok m := by rw [moduleOf, hm]
  have hmember : member m n = .ok o := by
    rw [functionNamed, moduleNamed] at ho
    rw [member]
    cases hf : m.function? n with
    | some f =>
      rw [hf] at ho
      exact congrArg _ (Option.some.inj ho)
    | none =>
      rw [hf, Option.map_none, Option.none_or] at ho
      split at ho
      next hn =>
        rw [if_pos (List.contains_iff_mem.2 hn)]
        exact congrArg _ (Option.some.inj ho)
      next => cases ho
  rw [eval, eval, hlookup]
  change ofExcept (k.moduleOf name >>= (member · n)) = pure o
  rw [hmodule]
  change ofExcept (member m n) = pure o
  rw [hmember]
  rfl

/-- What the names of a module stand for in `j`, where everything was imported from it, and as
    attributes in `k`, where it was imported alone under `name`. -/
structure Agrees (m : Module σ) (name : String) (j k : Interpreter σ) : Prop where
  function : ∀ n ∈ m.functionNames, n ∉ m.imports → ∃ f, m.function? n = some f ∧
    j.globals n = some (.function n f) ∧ k.eval (.attr (.name name) n) = pure (.function n f)
  module : ∀ n ∈ m.imports, n ∉ m.functionNames →
    j.globals n = some (.module n) ∧ k.eval (.attr (.name name) n) = pure (.module n)
  both : ∀ n ∈ m.functionNames, n ∈ m.imports → ∃ f, m.function? n = some f ∧
    j.globals n = some (.module n) ∧ k.eval (.attr (.name name) n) = pure (.function n f)

/-- Where the names stand for the imports first and the functions next, both ways of importing come
    to the same things, except for a name that is both. -/
theorem agrees_of_globals {m : Module σ} (hnodup : m.functionNames.Nodup) {name : String}
    {j k : Interpreter σ} {globals : Bindings String (Object σ)}
    (hj : ∀ n, j.globals n = (moduleNamed m.imports n).or ((functionNamed m n).or (globals n)))
    (hm : k.modules name = some m) (hk : k.globals name = some (.module name)) :
    Agrees m name j k := by
  have hfunction {n : String} (hn : n ∈ m.functionNames) :
      ∃ f, m.function? n = some f ∧ functionNamed m n = some (.function n f) := by
    obtain ⟨o, ho⟩ := Option.isSome_iff_exists.1 ((functionNamed_isSome hnodup).2 hn)
    obtain ⟨f, hf, rfl⟩ := Option.map_eq_some_iff.1 ho
    exact ⟨f, hf, ho⟩
  -- A name that is both is the module in the one way, since imports are bound last.
  refine ⟨fun n hn himport => ?_, fun n himport hn => ?_, fun n hn himport => ?_⟩
  · obtain ⟨f, hf, hnamed⟩ := hfunction hn
    refine ⟨f, hf, ?_, eval_attr hm hk (by rw [hnamed, Option.some_or])⟩
    rw [hj, moduleNamed, if_neg himport, hnamed, Option.none_or, Option.some_or]
  · have hnamed : functionNamed m n = none :=
      Option.not_isSome_iff_eq_none.1 (mt (functionNamed_isSome hnodup).1 hn)
    refine ⟨?_, eval_attr hm hk (by rw [hnamed, moduleNamed, if_pos himport, Option.none_or])⟩
    rw [hj, moduleNamed, if_pos himport, Option.some_or]
  · obtain ⟨f, hf, hnamed⟩ := hfunction hn
    refine ⟨f, hf, ?_, eval_attr hm hk (by rw [hnamed, Option.some_or])⟩
    rw [hj, moduleNamed, if_pos himport, Option.some_or]

theorem bindFunctions_registered (i : Interpreter σ) (fs : List (String × Native σ))
    (name : String) : (i.bindFunctions fs).Registered name ↔ i.Registered name := by
  rw [Registered, (bindFunctions_frame i fs).modules, Registered]

/-- If not all names are registered, one is the first that is not. -/
theorem exists_first_missing (i : Interpreter σ) {names : List String}
    (h : ¬∀ x ∈ names, i.Registered x) :
    ∃ before x after, names = before ++ x :: after ∧ (∀ y ∈ before, i.Registered y) ∧
      ¬i.Registered x := by
  cases hfind : names.find? (fun x => !decide (i.Registered x)) with
  | none =>
    refine absurd (fun x hx => ?_) h
    simpa using List.find?_eq_none.1 hfind x hx
  | some x =>
    obtain ⟨hx, before, after, hnames, hbefore⟩ := List.find?_eq_some_iff_append.1 hfind
    exact ⟨before, x, after, hnames, by simpa using hbefore, by simpa using hx⟩

/-- Importing everything from a module that was built succeeds just if its imports are all
    registered. Then exactly its functions and imports are bound, and every such name stands for
    what it stands for as an attribute once the module alone is imported, unless it is the name
    of a function and of an import. Otherwise the first import that is not registered is
    reported, and the functions and the imports before it are bound. The order of the functions
    makes no difference. -/
theorem imports_agree {i : Interpreter σ} {name : String} {m : Module σ}
    (hm : i.modules name = some m) (hbuilt : m.Built) :
    ∃ result j, i.run (.importAll name) = pure (result, j) ∧
      (∀ fs, fs.Perm m.functions → (i.bindFunctions fs).bindModules m.imports = (result, j)) ∧
      (result = .ok () ↔ ∀ x ∈ m.imports, i.Registered x) ∧
      (result = .ok () →
        (∀ n, j.globals n =
          (moduleNamed m.imports n).or ((functionNamed m n).or (i.globals n))) ∧
        ∀ k : Interpreter σ, k.modules = i.modules → ∃ k',
          k.run (.importModule name) = pure (.ok (), k') ∧ Agrees m name j k') ∧
      (∀ before x after, m.imports = before ++ x :: after → (∀ y ∈ before, i.Registered y) →
        ¬i.Registered x →
        result = .error ⟨.importError, "No module named '" ++ x ++ "'"⟩ ∧
        ∀ n, j.globals n = (moduleNamed before n).or ((functionNamed m n).or (i.globals n))) := by
  have hmodule : i.moduleOf name = .ok m := by rw [moduleOf, hm]
  have hall (h : ∀ x ∈ m.imports, i.Registered x) :
      (i.bindFunctions m.functions).bindModules m.imports =
        (.ok (), (i.bindFunctions m.functions).bindAll m.imports) :=
    bindModules_of_registered fun x hx => (bindFunctions_registered ..).2 (h x hx)
  have hmissing {before : List String} {x : String} {after : List String}
      (himports : m.imports = before ++ x :: after) (h : ∀ y ∈ before, i.Registered y)
      (hx : ¬i.Registered x) : (i.bindFunctions m.functions).bindModules m.imports =
        (.error ⟨.importError, "No module named '" ++ x ++ "'"⟩,
          (i.bindFunctions m.functions).bindAll before) := by
    rw [himports]
    exact bindModules_of_missing (fun y hy => (bindFunctions_registered ..).2 (h y hy))
      (mt (bindFunctions_registered ..).1 hx) after
  have hrun : i.run (.importAll name) =
      pure ((i.bindFunctions m.functions).bindModules m.imports) := by rw [run, hmodule]
  -- Whatever is claimed is about this end: all functions are bound, and then the imports in order.
  generalize hend : (i.bindFunctions m.functions).bindModules m.imports = ending
    at hall hmissing hrun
  obtain ⟨result, j⟩ := ending
  have hok : result = .ok () ↔ ∀ x ∈ m.imports, i.Registered x := by
    refine ⟨fun hresult => by_contra fun h => ?_, fun h => congrArg Prod.fst (hall h)⟩
    obtain ⟨before, x, after, himports, hbefore, hx⟩ := i.exists_first_missing h
    cases hresult.symm.trans (congrArg Prod.fst (hmissing himports hbefore hx))
  refine ⟨result, j, hrun, fun fs hfs => ?_, hok, fun hresult => ?_,
    fun before x after himports hbefore hx => ?_⟩
  · rw [bindFunctions_perm hfs ((hfs.map _).nodup_iff.2 hbuilt.nodup), hend]
  · obtain rfl : j = (i.bindFunctions m.functions).bindAll m.imports :=
      congrArg Prod.snd (hall (hok.1 hresult))
    have hj := bindAll_bindFunctions_globals i hbuilt.nodup m.imports
    refine ⟨hj, fun k hk => ⟨k.bind name (.module name), ?_, ?_⟩⟩
    · rw [run, moduleOf, hk, hm]
    · exact agrees_of_globals hbuilt.nodup hj (hk ▸ hm) (k.globals.bind_self _ _)
  · cases hmissing himports hbefore hx
    exact ⟨rfl, bindAll_bindFunctions_globals i hbuilt.nodup before⟩

/-- A module with a function and an import of the same name. -/
def doubled : Module Unit := ((Module.empty "m").function "x" fun _ => pure .none).addImport "x"

/-- An interpreter with this module and its import. -/
def doubling : Interpreter Unit :=
  { modules := (Bindings.empty.bind "x" (.empty "x")).bind "m" doubled }

/-- The name stands for the module in the one way, and for the function in the other. -/
theorem imports_agree_doubled : ∃ (j k : Interpreter Unit) (f : Native Unit),
    doubling.run (.importAll "m") = pure (.ok (), j) ∧
    doubling.run (.importModule "m") = pure (.ok (), k) ∧
    j.globals "x" = some (.module "x") ∧
    k.eval (.attr (.name "m") "x") = pure (.function "x" f) := by
  have hm : doubling.modules "m" = some doubled := rfl
  have hbuilt : doubled.Built := ((Module.Built.empty "m").function "x" _).addImport "x"
  obtain ⟨result, j, hrun, -, hok, hagrees, -⟩ := imports_agree hm hbuilt
  obtain rfl : result = .ok () := hok.2 (by decide)
  obtain ⟨k, himport, hboth⟩ := (hagrees rfl).2 doubling rfl
  obtain ⟨f, -, hj, hk⟩ := hboth.both "x" (by decide) (by decide)
  exact ⟨j, k, f, hrun, himport, hj, hk⟩

end LedBoard.Script.Interpreter
