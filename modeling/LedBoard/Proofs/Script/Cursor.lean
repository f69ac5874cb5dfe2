import LedBoard.Proofs.Script.Soundness

/-!
# Reading by position

A script can be read with its tokens left in place: a *cursor* has the position of the next token,
looks at that one alone, and moves on by one token at a time, behind the last one too if it is
asked for a token where there is none. The rules of the grammar call each other in a circle, so
whether such a reading ends is not seen from its text. Here every call, and every turn of a loop,
is given the depth that is left for the calls in it; where none is left the reading halts without
an answer (`Halt.exhausted`).

That never happens to a reading that starts with eight levels for every token in front of it, and
as many to spare: from one call to the next one there are fewer tokens, or as many and a rule that
is lower in the grammar. It arrives where reading the tokens one after the other does
(`Arrives`), with the same result.

* `arrives_readExpression`, `arrives_readPrimary` and so on: the rules of expressions;
* `arrives_readStatement`: statements.
-/

namespace LedBoard.Script

/-- Why a reading halts. -/
inductive Halt
  /-- A rule does not fit. -/
  | mismatch
  /-- The calls are nested too deep. -/
  | exhausted
  deriving DecidableEq

/-- A reading of tokens that stay as they are, from a position on: it halts, or it has a result and
    the position behind what was read. -/
abbrev Cursor (α : Type) := ReaderT (List Token) (StateT Nat (Except Halt)) α

namespace Cursor

/-! ## Steps -/

/-- The token at the position. -/
def peek : Cursor (Option Token) := fun ts p => .ok (ts[p]?, p)

/-- The token behind the one at the position. -/
def peekBehind : Cursor (Option Token) := fun ts p => .ok (ts[p + 1]?, p)

/-- The token at the position, which is left behind even if there is none. -/
def next : Cursor (Option Token) := fun ts p => .ok (ts[p]?, p + 1)

/-- Leaves a symbol behind if it is at the position. -/
def eat (s : Symbol) : Cursor Bool := do
  if (← peek) = some (.symbol s) then
    let _ ← next
    return true
  else
    return false

/-- Leaves a symbol behind that has to be at the position. -/
def expect (s : Symbol) : Cursor Unit := do
  if ← eat s then
    return ()
  else
    throw .mismatch

/-- The name at the position. -/
def name : Cursor String := do
  match ← next with
  | some (.name n) => return n
  | _ => throw .mismatch

/-! ## Rules -/

/-- The expression that a token is by itself. -/
def atom? : Token → Option Expr
  | .int n => some (.int n)
  | .str s => some (.str s)
  | .name n => if isKeyword n then none else some (.name n)
  | _ => none

mutual

/-- expression. -/
def readExpression : Nat → Cursor Expr
  | 0 => throw .exhausted
  | depth + 1 => do readSums depth (← readTerm depth)

/-- A turn of the loop over the terms added to what has been read. -/
def readSums : Nat → Expr → Cursor Expr
  | 0, _ => throw .exhausted
  | depth + 1, left => do
    match (← peek).bind sumOperator? with
    | none => return left
    | some op =>
      let _ ← next
      readSums depth (.binary op left (← readTerm depth))

/-- term. -/
def readTerm : Nat → Cursor Expr
  | 0 => throw .exhausted
  | depth + 1 => do readProducts depth (← readUnary depth)

/-- A turn of the loop over the factors that what has been read is multiplied with. -/
def readProducts : Nat → Expr → Cursor Expr
  | 0, _ => throw .exhausted
  | depth + 1, left => do
    match (← peek).bind productOperator? with
    | none => return left
    | some op =>
      let _ ← next
      readProducts depth (.binary op left (← readUnary depth))

/-- unary. -/
def readUnary : Nat → Cursor Expr
  | 0 => throw .exhausted
  | depth + 1 => do
    if ← eat .minus then
      return .neg (← readUnary depth)
    else
      readPostfix depth

/-- postfix. -/
def readPostfix : Nat → Cursor Expr
  | 0 => throw .exhausted
  | depth + 1 => do readSuffixes depth (← readPrimary depth)

/-- A turn of the loop over the attributes and calls of what has been read. -/
def readSuffixes : Nat → Expr → Cursor Expr
  | 0, _ => throw .exhausted
  | depth + 1, e => do
    if ← eat .dot then
      readSuffixes depth (.attr e (← name))
    else if ← eat .parenOpen then
      readSuffixes depth (.call e (← readArguments depth))
    else
      return e

/-- The arguments of a call, from behind its opening parenthesis. -/
def readArguments : Nat → Cursor (List Expr)
  | 0 => throw .exhausted
  | depth + 1 => do
    if ← eat .parenClose then
      return []
    else
      readSomeArguments depth

/-- A turn of the loop over the arguments of a call. -/
def readSomeArguments : Nat → Cursor (List Expr)
  | 0 => throw .exhausted
  | depth + 1 => do
    let e ← readExpression depth
    if ← eat .parenClose then
      return [e]
    else
      expect .comma
      return e :: (← readSomeArguments depth)

/-- primary. -/
def readPrimary : Nat → Cursor Expr
  | 0 => throw .exhausted
  | depth + 1 => do
    let t ← next
    if t = some (.symbol .parenOpen) then
      let e ← readExpression depth
      expect .parenClose
      return e
    else
      match t.bind atom? with
      | some e => return e
      | none => throw .mismatch

end

/-- statement: the token at the position decides, and the one behind it whether a name is assigned
    to. -/
def readStatement (depth : Nat) : Cursor Stmt := do
  match ← peek with
  | some (.name n) =>
    if n = "import" then
      let _ ← next
      return .importModule (← name)
    else if n = "from" then
      let _ ← next
      let m ← name
      if (← name) = "import" then
        expect .star
        return .importAll m
      else
        throw .mismatch
    else if n = "raise" then
      let _ ← next
      return .raise (← readExpression depth)
    else if (← peekBehind) = some (.symbol .equals) then
      let _ ← next
      let _ ← next
      return .assign n (← readExpression depth)
    else
      return .expr (← readExpression depth)
  | _ => return .expr (← readExpression depth)

end Cursor

/-! ## Where a reading arrives -/

/-- The tokens `us` are those from the position `p` on. -/
def At (ts : List Token) (p : Nat) (us : List Token) : Prop :=
  ∃ before, before.length = p ∧ ts = before ++ us

namespace At

variable {ts us : List Token} {t : Token} {p : Nat}

theorem next (h : At ts p (t :: us)) : At ts (p + 1) us := by
  obtain ⟨before, rfl, rfl⟩ := h
  exact ⟨before ++ [t], by simp, by simp⟩

theorem getElem? (h : At ts p us) : ts[p]? = us.head? := by
  obtain ⟨before, rfl, rfl⟩ := h
  rw [List.getElem?_append_right (Nat.le_refl _), Nat.sub_self, List.head?_eq_getElem?]

end At

/-- The cursor `w` goes from the position `p` to where the reading of the tokens from there on
    leaves over what it leaves over, and has its result; or neither fits. -/
def Arrives {α : Type} (w : Cursor α) (ts : List Token) (p : Nat) :
    Option (α × List Token) → Prop
  | none => w ts p = .error .mismatch
  | some (a, r) => ∃ q, w ts p = .ok (a, q) ∧ At ts q r

namespace Arrives

open Cursor

variable {α β : Type} {w : Cursor α} {f : α → Cursor β} {ts us r : List Token} {p q : Nat} {a : α}
  {o : Option (α × List Token)} {o' : Option (β × List Token)}

/-- A reading that goes on starts where the first part of it has left off. -/
theorem bind_of_ok (h : w ts p = .ok (a, q)) : (w >>= f) ts p = f a ts q := by
  change w ts p >>= _ = _
  rw [h]
  rfl

/-- A reading whose first part halts does not go on. -/
theorem bind_of_error {e : Halt} (h : w ts p = .error e) : (w >>= f) ts p = .error e := by
  change w ts p >>= _ = _
  rw [h]
  rfl

/-- A reading in two parts arrives where a parser in two parts leaves off, if each part does. -/
theorem bind {g : α × List Token → Option (β × List Token)} (hw : Arrives w ts p o)
    (hf : ∀ {a r q}, o = some (a, r) → At ts q r → Arrives (f a) ts q (g (a, r))) :
    Arrives (w >>= f) ts p (o.bind g) := by
  cases o with
  | none => exact bind_of_error hw
  | some x =>
    obtain ⟨q, hq, hr⟩ := hw
    have h := hf rfl hr
    rw [Option.bind_some]
    unfold Arrives at h ⊢
    rwa [bind_of_ok hq]

theorem pure (h : At ts p us) (a : α) : Arrives (Pure.pure a) ts p (some (a, us)) := ⟨p, rfl, h⟩

theorem mismatch : Arrives (throw .mismatch : Cursor α) ts p none := rfl

/-- A reading arrives at the same place when its result is changed. -/
theorem map (hw : Arrives w ts p o) (k : α → β) :
    Arrives (w >>= fun a => Pure.pure (k a)) ts p (o.map fun (a, r) => (k a, r)) := by
  rw [Option.map_eq_bind]
  exact hw.bind fun _ hr => .pure hr _

/-- Behind what has been read in any case, the rest goes on. -/
theorem andThen (hw : Arrives w ts p (some (a, us)))
    (hf : ∀ {q}, At ts q us → Arrives (f a) ts q o') : Arrives (w >>= f) ts p o' := by
  obtain ⟨q, hq, hr⟩ := hw
  have h := hf hr
  unfold Arrives at h ⊢
  rwa [bind_of_ok hq]

theorem halt (hw : Arrives w ts p none) : Arrives (w >>= f) ts p none := bind_of_error hw

/-! ### Steps -/

theorem peek (h : At ts p us) : Arrives Cursor.peek ts p (some (us.head?, us)) :=
  ⟨p, by rw [Cursor.peek, h.getElem?], h⟩

theorem peekBehind {t : Token} (h : At ts p (t :: us)) :
    Arrives Cursor.peekBehind ts p (some (us.head?, t :: us)) :=
  ⟨p, by rw [Cursor.peekBehind, h.next.getElem?], h⟩

theorem next {t : Token} (h : At ts p (t :: us)) : Arrives Cursor.next ts p (some (some t, us)) :=
  ⟨p + 1, by rw [Cursor.next, h.getElem?]; rfl, h.next⟩

/-- Where there is no token the position is left behind all the same. -/
theorem next_nil {f : Option Token → Cursor β} (h : At ts p [])
    (hf : f none ts (p + 1) = .error .mismatch) : Arrives (Cursor.next >>= f) ts p none := by
  have hnext : Cursor.next ts p = .ok (none, p + 1) := by
    rw [Cursor.next, h.getElem?]
    rfl
  exact (bind_of_ok hnext).trans hf

/-- A symbol that is there is taken. -/
theorem eat {s : Symbol} (h : At ts p (.symbol s :: us)) :
    Arrives (Cursor.eat s) ts p (some (true, us)) := by
  rw [Cursor.eat]
  refine (peek h).andThen fun h => ?_
  rw [List.head?_cons, if_pos rfl]
  exact (next h).andThen fun h => .pure h true

/-- A symbol that is not there is not taken, and the reading may go on. -/
theorem eat_of_ne {s : Symbol} (h : At ts p us) (hus : ∀ rest, us ≠ .symbol s :: rest) :
    Arrives (Cursor.eat s) ts p (some (false, us)) := by
  rw [Cursor.eat]
  refine (peek h).andThen fun h => ?_
  rw [if_neg]
  · exact .pure h false
  · intro hhead
    obtain ⟨rest, hrest⟩ := List.head?_eq_some_iff.1 hhead
    exact hus rest hrest

theorem expect {s : Symbol} (h : At ts p (.symbol s :: us)) :
    Arrives (Cursor.expect s) ts p (some ((), us)) :=
  (eat h).andThen fun h => .pure h ()

/-- Nothing fits where a symbol is expected that is not there. -/
theorem expect_of_ne {s : Symbol} (h : At ts p us) (hus : ∀ rest, us ≠ .symbol s :: rest) :
    Arrives (Cursor.expect s) ts p none :=
  (eat_of_ne h hus).andThen fun _ => .mismatch

theorem name {n : String} (h : At ts p (.name n :: us)) :
    Arrives Cursor.name ts p (some (n, us)) :=
  (next h).andThen fun h => .pure h n

/-- Nothing fits where a name is expected and there is none. -/
theorem name_of_ne (h : At ts p us) (hus : ∀ n rest, us ≠ .name n :: rest) :
    Arrives Cursor.name ts p none := by
  match us, hus with
  | [], _ => exact next_nil h rfl
  | t :: us, hus =>
    refine (next h).andThen fun _ => ?_
    cases t with
    | name n => exact absurd rfl (hus n us)
    | _ => exact .mismatch

/-- Whether a symbol is there decides which of two readings goes on. -/
theorem eatThen {w' : Cursor α} {s : Symbol} (h : At ts p us)
    (hs : ∀ {q rest}, us = .symbol s :: rest → At ts q rest → Arrives w ts q o)
    (hne : ∀ {q}, (∀ rest, us ≠ .symbol s :: rest) → At ts q us → Arrives w' ts q o) :
    Arrives (do if ← Cursor.eat s then w else w') ts p o := by
  by_cases hus : ∃ rest, us = .symbol s :: rest
  · obtain ⟨rest, rfl⟩ := hus
    exact (eat h).andThen fun h => hs rfl h
  · have hus' : ∀ rest, us ≠ .symbol s :: rest := fun rest hrest => hus ⟨rest, hrest⟩
    exact (eat_of_ne h hus').andThen fun h => hne hus' h

/-- With a name there the reading goes on, and without one nothing fits. -/
theorem nameThen {f : String → Cursor α} (h : At ts p us)
    (hname : ∀ {q n rest}, us = .name n :: rest → At ts q rest → Arrives (f n) ts q o)
    (hne : (∀ n rest, us ≠ .name n :: rest) → o = none) :
    Arrives (Cursor.name >>= f) ts p o := by
  by_cases hus : ∃ n rest, us = .name n :: rest
  · obtain ⟨n, rest, rfl⟩ := hus
    exact (name h).andThen fun h => hname rfl h
  · have hus' : ∀ n rest, us ≠ .name n :: rest := fun n rest hrest => hus ⟨n, rest, hrest⟩
    rw [hne hus']
    exact (name_of_ne h hus').halt

end Arrives

/-! ## Expressions -/

/-- Without a parenthesis in front a primary expression is one token. -/
theorem plain_parsePrimary_atom {t : Token} (ht : t ≠ .symbol .parenOpen) (rest : List Token) :
    plain (parsePrimary (t :: rest)) = (Cursor.atom? t).map fun e => (e, rest) := by
  rw [parsePrimary.eq_def]
  cases t with
  | int n => rfl
  | str s => rfl
  | newline => rfl
  | name n =>
    rw [Cursor.atom?]
    dsimp only
    cases isKeyword n <;> rfl
  | symbol s =>
    cases s with
    | parenOpen => exact absurd rfl ht
    | _ => rfl

section Expressions

open Cursor

variable {ts : List Token}

mutual

/-- An expression is read with a cursor as by the parser. Eight calls for every token that is left
    and five more are deep enough: they come down to a primary expression without a token, and then
    one is taken. -/
theorem arrives_readExpression {us : List Token} {p : Nat} (h : At ts p us) :
    ∀ {depth}, 8 * us.length + 5 < depth →
      Arrives (readExpression depth) ts p (plain (parseExpression us))
  | depth + 1, hdepth => by
    rw [readExpression, plain_parseExpression]
    refine (arrives_readTerm h (by omega)).bind fun hterm h => ?_
    have := length_lt_of_plain hterm
    exact arrives_readSums h _ (by omega)
termination_by structural depth => depth

/-- At every turn the sign between two terms is taken. -/
theorem arrives_readSums {us : List Token} {p : Nat} (h : At ts p us) (left : Expr) :
    ∀ {depth}, 8 * us.length < depth →
      Arrives (readSums depth left) ts p (plain (parseSums left us))
  | depth + 1, hdepth => by
    rw [readSums]
    refine (Arrives.peek h).andThen fun h => ?_
    match us, h, hdepth with
    | [], h, _ =>
      rw [plain_parseSums_nil]
      exact .pure h left
    | t :: rest, h, hdepth =>
      rw [plain_parseSums_cons, List.head?_cons, Option.bind_some]
      cases sumOperator? t with
      | none => exact .pure h left
      | some op =>
        rw [List.length_cons] at hdepth
        refine (Arrives.next h).andThen fun h => ?_
        refine (arrives_readTerm h (by omega)).bind fun hterm h => ?_
        have := length_lt_of_plain hterm
        exact arrives_readSums h _ (by omega)
termination_by structural depth => depth

theorem arrives_readTerm {us : List Token} {p : Nat} (h : At ts p us) :
    ∀ {depth}, 8 * us.length + 4 < depth →
      Arrives (readTerm depth) ts p (plain (parseTerm us))
  | depth + 1, hdepth => by
    rw [readTerm, plain_parseTerm]
    refine (arrives_readUnary h (by omega)).bind fun hunary h => ?_
    have := length_lt_of_plain hunary
    exact arrives_readProducts h _ (by omega)
termination_by structural depth => depth

/-- At every turn the sign between two factors is taken. -/
theorem arrives_readProducts {us : List Token} {p : Nat} (h : At ts p us) (left : Expr) :
    ∀ {depth}, 8 * us.length < depth →
      Arrives (readProducts depth left) ts p (plain (parseProducts left us))
  | depth + 1, hdepth => by
    rw [readProducts]
    refine (Arrives.peek h).andThen fun h => ?_
    match us, h, hdepth with
    | [], h, _ =>
      rw [plain_parseProducts_nil]
      exact .pure h left
    | t :: rest, h, hdepth =>
      rw [plain_parseProducts_cons, List.head?_cons, Option.bind_some]
      cases productOperator? t with
      | none => exact .pure h left
      | some op =>
        rw [List.length_cons] at hdepth
        refine (Arrives.next h).andThen fun h => ?_
        refine (arrives_readUnary h (by omega)).bind fun hunary h => ?_
        have := length_lt_of_plain hunary
        exact arrives_readProducts h _ (by omega)
termination_by structural depth => depth

/-- A minus sign is taken before the next one is looked for. -/
theorem arrives_readUnary {us : List Token} {p : Nat} (h : At ts p us) :
    ∀ {depth}, 8 * us.length + 3 < depth →
      Arrives (readUnary depth) ts p (plain (parseUnary us))
  | depth + 1, hdepth => by
    rw [readUnary]
    refine .eatThen h ?_ ?_
    · rintro q rest rfl h
      rw [List.length_cons] at hdepth
      rw [plain_parseUnary_minus]
      exact (arrives_readUnary h (by omega)).map Expr.neg
    · intro q hminus h
      rw [plain_parseUnary hminus]
      exact arrives_readPostfix h (by omega)
termination_by structural depth => depth

theorem arrives_readPostfix {us : List Token} {p : Nat} (h : At ts p us) :
    ∀ {depth}, 8 * us.length + 2 < depth →
      Arrives (readPostfix depth) ts p (plain (parsePostfix us))
  | depth + 1, hdepth => by
    rw [readPostfix, plain_parsePostfix]
    refine (arrives_readPrimary h (by omega)).bind fun hprimary h => ?_
    have := length_lt_of_plain hprimary
    exact arrives_readSuffixes h _ (by omega)
termination_by structural depth => depth

/-- At every turn a dot or a parenthesis is taken. -/
theorem arrives_readSuffixes {us : List Token} {p : Nat} (h : At ts p us) (e : Expr) :
    ∀ {depth}, 8 * us.length < depth →
      Arrives (readSuffixes depth e) ts p (plain (parseSuffixes e us))
  | depth + 1, hdepth => by
    rw [readSuffixes]
    refine .eatThen h ?_ fun hdot h => .eatThen h ?_ ?_
    · rintro q rest rfl h
      refine .nameThen h ?_ fun hrest => plain_parseSuffixes_dot e hrest
      rintro q n rest rfl h
      rw [plain_parseSuffixes_attr]
      simp only [List.length_cons] at hdepth
      exact arrives_readSuffixes h _ (by omega)
    · rintro q rest rfl h
      rw [List.length_cons] at hdepth
      rw [plain_parseSuffixes_call]
      refine (arrives_readArguments h (by omega)).bind fun hargs h => ?_
      have := length_lt_of_plain hargs
      exact arrives_readSuffixes h _ (by omega)
    · intro q hopen h
      rw [plain_parseSuffixes e hdot hopen]
      exact .pure h e
termination_by structural depth => depth

/-- The first argument is read without a token being taken before it, so these calls lie above those
    of an expression. -/
theorem arrives_readArguments {us : List Token} {p : Nat} (h : At ts p us) :
    ∀ {depth}, 8 * us.length + 7 < depth →
      Arrives (readArguments depth) ts p (plain (parseArguments us))
  | depth + 1, hdepth => by
    rw [readArguments]
    refine .eatThen h ?_ ?_
    · rintro q rest rfl h
      rw [plain_parseArguments_close]
      exact .pure h []
    · intro q hclose h
      rw [plain_parseArguments hclose]
      exact arrives_readSomeArguments h (by omega)
termination_by structural depth => depth

/-- A comma is taken between two arguments. -/
theorem arrives_readSomeArguments {us : List Token} {p : Nat} (h : At ts p us) :
    ∀ {depth}, 8 * us.length + 6 < depth →
      Arrives (readSomeArguments depth) ts p (plain (parseSomeArguments us))
  | depth + 1, hdepth => by
    have hexpr := arrives_readExpression h (show 8 * us.length + 5 < depth by omega)
    rw [readSomeArguments, plain_parseSomeArguments]
    split
    · next e r hread =>
      rw [hread] at hexpr
      exact hexpr.andThen fun h => (Arrives.eat h).andThen fun h => .pure h [e]
    · next e r hread =>
      have := length_lt_of_plain hread
      rw [List.length_cons] at this
      rw [hread] at hexpr
      refine hexpr.andThen fun h => (Arrives.eat_of_ne h (by simp)).andThen fun h => ?_
      refine (Arrives.expect h).andThen fun h => ?_
      exact (arrives_readSomeArguments h (by omega)).map (e :: ·)
    · next hclose hcomma =>
      cases hread : plain (parseExpression us) with
      | none =>
        rw [hread] at hexpr
        exact hexpr.halt
      | some x =>
        have hclose' : ∀ r, x.2 ≠ .symbol .parenClose :: r := fun r hr =>
          hclose x.1 r (by rw [hread, ← hr])
        have hcomma' : ∀ r, x.2 ≠ .symbol .comma :: r := fun r hr =>
          hcomma x.1 r (by rw [hread, ← hr])
        rw [hread] at hexpr
        refine hexpr.andThen fun h => (Arrives.eat_of_ne h hclose').andThen fun h => ?_
        exact (Arrives.expect_of_ne h hcomma').halt
termination_by structural depth => depth

/-- A parenthesis is taken before the expression in it is read. -/
theorem arrives_readPrimary {us : List Token} {p : Nat} (h : At ts p us) :
    ∀ {depth}, 8 * us.length + 1 < depth →
      Arrives (readPrimary depth) ts p (plain (parsePrimary us))
  | depth + 1, hdepth => by
    rw [readPrimary]
    match us, h, hdepth with
    | [], h, _ =>
      rw [parsePrimary.eq_def]
      exact .next_nil h rfl
    | t :: rest, h, hdepth =>
      rw [List.length_cons] at hdepth
      refine (Arrives.next h).andThen fun hrest => ?_
      by_cases hopen : t = .symbol .parenOpen
      · subst hopen
        have hexpr := arrives_readExpression hrest (show 8 * rest.length + 5 < depth by omega)
        rw [plain_parsePrimary_group, if_pos rfl]
        split
        · next e r hread =>
          rw [hread] at hexpr
          exact hexpr.andThen fun h => (Arrives.expect h).andThen fun h => .pure h e
        · next hclose =>
          -- Nothing fits if there is no expression, or no parenthesis behind it.
          cases hread : plain (parseExpression rest) with
          | none =>
            rw [hread] at hexpr
            exact hexpr.halt
          | some x =>
            rw [hread] at hexpr
            refine hexpr.andThen fun h => (Arrives.expect_of_ne h fun r hr => ?_).halt
            exact hclose x.1 r (by rw [hread, ← hr])
      · rw [plain_parsePrimary_atom hopen, if_neg (by simpa using hopen), Option.bind_some]
        cases atom? t with
        | none => exact .mismatch
        | some e => exact .pure hrest e
termination_by structural depth => depth

end

end Expressions

/-! ## Statements -/

section Statements

open Cursor

variable {ts us : List Token} {p : Nat}

/-- The name behind `import` is the module. -/
theorem arrives_import (h : At ts p us) :
    Arrives (do return .importModule (← name)) ts p (plain (parseImport us)) := by
  refine .nameThen h ?_ fun hus => ?_
  · rintro q n rest rfl h
    exact .pure h _
  · rw [parseImport.eq_def]
    split
    · next n rest => exact absurd rfl (hus n rest)
    · rfl

/-- Behind `from` a module, `import` and a star are expected, and nothing else fits. -/
theorem arrives_importAll (h : At ts p us) :
    Arrives (do
      let m ← name
      if (← name) = "import" then
        expect .star
        return .importAll m
      else
        throw .mismatch) ts p (plain (parseImportAll us)) := by
  rw [parseImportAll.eq_def]
  split
  · next m kw rest =>
    refine (Arrives.name h).andThen fun h => (Arrives.name h).andThen fun h => ?_
    by_cases hkw : kw = "import"
    · rw [if_pos hkw, if_pos hkw]
      exact (Arrives.expect h).andThen fun h => .pure h _
    · rw [if_neg hkw, if_neg hkw]
      exact .mismatch
  · next hus =>
    refine .nameThen h ?_ fun _ => rfl
    rintro q m rest rfl h
    refine .nameThen h ?_ fun _ => rfl
    rintro q kw rest rfl h
    split
    · exact (Arrives.expect_of_ne h fun r hr => hus m kw r (by rw [hr])).halt
    · exact .mismatch

/-- No expression begins with an equals sign. -/
theorem plain_parseExpression_equals (us : List Token) :
    plain (parseExpression (.symbol .equals :: us)) = none := by
  rw [Option.eq_none_iff_forall_not_mem]
  rintro ⟨e, r⟩ h
  obtain ⟨d, hd, -⟩ := Grammar.exists_expression h
  exact d.tokens_ne rfl r us hd.symm

theorem eq_raise_of_isKeyword {n : String} (hn : isKeyword n = true) (himport : n ≠ "import")
    (hfrom : n ≠ "from") : n = "raise" := by
  simpa [isKeyword, himport, hfrom] using hn

/-- Behind a keyword nothing fits that begins with an equals sign, so the keyword alone decides. -/
theorem plain_parseStatement_keyword {n : String} (hn : isKeyword n = true) (us : List Token) :
    plain (parseStatement (.name n :: us)) =
      if n = "import" then plain (parseImport us)
      else if n = "from" then plain (parseImportAll us)
      else (plain (parseExpression us)).map fun (e, r) => (.raise e, r) := by
  by_cases hassign : ∃ rest, us = .symbol .equals :: rest
  · obtain ⟨rest, rfl⟩ := hassign
    rw [plain_parseStatement_assign, if_pos hn, plain_parseExpression_equals]
    split
    · rfl
    · split <;> rfl
  · rw [plain_parseStatement_name n fun r hr => hassign ⟨r, hr⟩]
    split
    · rfl
    split
    · rfl
    · next himport hfrom =>
      rw [if_pos (eq_raise_of_isKeyword hn himport hfrom)]

/-- A statement is read with a cursor as by the parser, with the same depth as an expression. -/
theorem arrives_readStatement (h : At ts p us) {depth : Nat} (hdepth : 8 * us.length + 5 < depth) :
    Arrives (readStatement depth) ts p (plain (parseStatement us)) := by
  rw [readStatement]
  refine (Arrives.peek h).andThen fun h => ?_
  -- What stands first decides: a keyword, another name, or anything else.
  by_cases hname : ∃ n rest, us = .name n :: rest
  · obtain ⟨n, rest, rfl⟩ := hname
    rw [List.length_cons] at hdepth
    rw [List.head?_cons]
    dsimp only
    by_cases hn : isKeyword n = true
    · rw [plain_parseStatement_keyword hn]
      split
      · exact (Arrives.next h).andThen fun h => arrives_import h
      split
      · exact (Arrives.next h).andThen fun h => arrives_importAll h
      · next himport hfrom =>
        rw [if_pos (eq_raise_of_isKeyword hn himport hfrom)]
        refine (Arrives.next h).andThen fun h => ?_
        exact (arrives_readExpression h (by omega)).map Stmt.raise
    · obtain ⟨himport, hfrom, hraise⟩ := Grammar.ne_of_isKeyword (Bool.not_eq_true _ ▸ hn)
      rw [if_neg himport, if_neg hfrom, if_neg hraise]
      refine (Arrives.peekBehind h).andThen fun h => ?_
      -- A name that is no keyword starts an assignment only in front of an equals sign.
      by_cases hassign : ∃ rest', rest = .symbol .equals :: rest'
      · obtain ⟨rest, rfl⟩ := hassign
        rw [List.length_cons] at hdepth
        rw [plain_parseStatement_assign, if_neg hn, List.head?_cons, if_pos rfl]
        refine (Arrives.next h).andThen fun h => (Arrives.next h).andThen fun h => ?_
        exact (arrives_readExpression h (by omega)).map (Stmt.assign n)
      · have hrest : ∀ r, rest ≠ .symbol .equals :: r := fun r hr => hassign ⟨r, hr⟩
        rw [plain_parseStatement_name n hrest, if_neg himport, if_neg hfrom, if_neg hraise, if_neg]
        · exact (arrives_readExpression h (by rw [List.length_cons]; omega)).map Stmt.expr
        · intro hhead
          obtain ⟨r, hr⟩ := List.head?_eq_some_iff.1 hhead
          exact hrest r hr
  · have hus : ∀ n rest, us ≠ .name n :: rest := fun n rest hrest => hname ⟨n, rest, hrest⟩
    rw [plain_parseStatement hus]
    split
    · next n hn =>
      obtain ⟨rest, hrest⟩ := List.head?_eq_some_iff.1 hn
      exact absurd hrest (hus n rest)
    · exact (arrives_readExpression h hdepth).map Stmt.expr

end Statements

end LedBoard.Script
