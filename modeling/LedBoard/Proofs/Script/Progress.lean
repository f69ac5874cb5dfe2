import LedBoard.Proofs.Script.Cursor
import LedBoard.Proofs.Script.Unambiguity

/-!
# How far a rule reads

A rule of the grammar that fits takes at least one token, and what it has read stands or falls with
the tokens that it has taken and with the first one behind them: no rule looks further ahead
(`LooksOneAhead`). Of expressions this is seen from the grammar. They are read exactly where it
derives them, and whether a derivation can end in front of a token depends on this token alone. A
statement looks at the token behind its first one, to tell whether a name is assigned to; that one
is either taken or the first one left over.

The tokens at which an expression of some kind does not end are just those with which some longer
expression of the kind goes on (`Greedy`), so that every rule reads as far as it can.

In terms of positions (`readAt`): a rule that fits at the position `p` ends at a position behind
it, and the tokens from `p` up to and with the one at that position decide. The recursion ends
from every position, as the reading by position shows, whose calls have a bounded depth.

* `Recognises.looksOneAhead`, `looksOneAhead_statement`: what a rule depends on;
* `Expression.exists_longer`: the tokens that go on with an expression;
* `rules_progress`: the statements together, by positions.
-/

namespace LedBoard.Script

open Grammar

/-! ## One token ahead -/

/-- Tokens are taken, and the same is read of these wherever the same token is behind them, or none
    as well. -/
def Decided {α : Type} (read : List Token → Option (α × List Token)) (ts : List Token) (a : α)
    (r : List Token) : Prop :=
  ∃ taken, taken ≠ [] ∧ ts = taken ++ r ∧
    ∀ ⦃r'⦄, r'.head? = r.head? → read (taken ++ r') = some (a, r')

/-- What is read is decided by the tokens taken and the first one behind them. -/
def LooksOneAhead {α : Type} (read : List Token → Option (α × List Token)) : Prop :=
  ∀ ⦃ts a r⦄, read ts = some (a, r) → Decided read ts a r

namespace LooksOneAhead

variable {α β : Type} {read read' : List Token → Option (α × List Token)} {ts r : List Token}
  {a : α}

theorem map (h : LooksOneAhead read) (k : α → β) :
    LooksOneAhead fun ts => (read ts).map fun (a, r) => (k a, r) := by
  intro ts b r hread
  obtain ⟨⟨a, r⟩, hts, heq⟩ := Option.map_eq_some_iff.1 hread
  cases heq
  obtain ⟨taken, hne, hts, hagain⟩ := h hts
  exact ⟨taken, hne, hts, fun _ hr => congrArg (Option.map _) (hagain hr)⟩

/-- What is read behind a token looks ahead no further than what is read behind it by itself. -/
theorem behind (h : LooksOneAhead read) {t : Token} (hread' : ∀ us, read' (t :: us) = read us)
    (hts : read' (t :: ts) = some (a, r)) : Decided read' (t :: ts) a r := by
  rw [hread'] at hts
  obtain ⟨taken, -, rfl, hagain⟩ := h hts
  exact ⟨t :: taken, List.cons_ne_nil t taken, rfl, fun _ hr => (hread' _).trans (hagain hr)⟩

/-- The first two tokens may tell which reading it is: the second one is taken, or is the first one
    left over. -/
theorem of_second (h : LooksOneAhead read)
    (hread' : ∀ us, us[0]? = ts[0]? → us[1]? = ts[1]? → read' us = read us)
    (hts : read' ts = some (a, r)) : Decided read' ts a r := by
  obtain ⟨taken, hne, rfl, hagain⟩ := h ((hread' ts rfl rfl).symm.trans hts)
  refine ⟨taken, hne, rfl, fun r' hr => (hread' (taken ++ r') ?_ ?_).trans (hagain hr)⟩
  · cases taken with
    | nil => exact absurd rfl hne
    | cons t taken => rfl
  · obtain _ | ⟨t, _ | ⟨t', taken⟩⟩ := taken
    · exact absurd rfl hne
    · rwa [List.head?_eq_getElem?, List.head?_eq_getElem?] at hr
    · rfl

end LooksOneAhead

/-- The tokens left over stop what a token stops that is the first of others. -/
theorem Grammar.Stops.of_head? {goesOn : Token → Bool} {r r' : List Token} (h : Stops goesOn r)
    (hr : r'.head? = r.head?) : Stops goesOn r' := by
  rintro t rest rfl
  obtain ⟨rest, rfl⟩ := List.head?_eq_some_iff.1 hr.symm
  exact h.head

/-- A rule reads the derivations of a kind, each with what is behind it left over if that does not
    go on with it. -/
structure Recognises {δ α : Type} (rule : (ts : List Token) → Parsed α ts)
    (tokens : δ → List Token) (tree : δ → α) (goesOn : Token → Bool) : Prop where
  exists_derivation : ∀ {ts : List Token} {a : α} {r : List Token}, plain (rule ts) = some (a, r) →
    ∃ d, ts = tokens d ++ r ∧ tree d = a ∧ Stops goesOn r
  read : ∀ (d : δ) {r : List Token}, Stops goesOn r →
    plain (rule (tokens d ++ r)) = some (tree d, r)

theorem recognises_expression :
    Recognises parseExpression Expression.tokens Expression.tree extendsExpression :=
  ⟨exists_expression, read_expression⟩

theorem recognises_term : Recognises parseTerm Term.tokens Term.tree extendsTerm :=
  ⟨exists_term, read_term⟩

theorem recognises_unary : Recognises parseUnary Unary.tokens Unary.tree extendsPostfix :=
  ⟨exists_unary, read_unary⟩

theorem recognises_postfix :
    Recognises parsePostfix Postfix.tokens Postfix.tree extendsPostfix where
  exists_derivation := exists_postfix
  read := read_postfix

/-- Nothing goes on with a primary expression. -/
theorem recognises_primary :
    Recognises parsePrimary Primary.tokens Primary.tree fun _ => false := by
  refine ⟨fun h => ?_, fun d _ _ => read_primary d⟩
  obtain ⟨d, hts, htree⟩ := exists_primary h
  exact ⟨d, hts, htree, fun _ _ _ => rfl⟩

namespace Recognises

variable {δ α : Type} {rule : (ts : List Token) → Parsed α ts} {tokens : δ → List Token}
  {tree : δ → α} {goesOn : Token → Bool}

/-- A rule that reads what the grammar derives looks ahead one token: only the first token that is
    left over decides whether it goes on. -/
theorem looksOneAhead (h : Recognises rule tokens tree goesOn) :
    LooksOneAhead fun ts => plain (rule ts) := by
  intro ts a r hread
  obtain ⟨d, rfl, rfl, hr⟩ := h.exists_derivation hread
  refine ⟨tokens d, ?_, rfl, fun _ hr' => h.read d (hr.of_head? hr')⟩
  intro hd
  have := length_lt_of_plain hread
  rw [hd] at this
  exact absurd this (Nat.lt_irrefl _)

/-- A derivation ends in front of a token with which it does not go on. -/
theorem ne_append (h : Recognises rule tokens tree goesOn) {t : Token} (ht : goesOn t = false)
    (d d' : δ) (more : List Token) : tokens d' ≠ tokens d ++ t :: more := by
  intro hd'
  have hread := h.read d (.cons ht more)
  have hread' := h.read d' .nil
  rw [List.append_nil, hd', hread] at hread'
  exact absurd (congrArg Prod.snd (Option.some.inj hread')) (by simp)

end Recognises

/-! ## Statements -/

theorem looksOneAhead_import : LooksOneAhead fun ts => plain (parseImport ts) := by
  intro ts s r h
  dsimp only at h
  rw [parseImport.eq_def] at h
  split at h
  · next m rest =>
    cases h
    exact ⟨[.name m], by simp, rfl, fun _ _ => rfl⟩
  · contradiction

/-- What stands behind `from` is three tokens, and none behind them is looked at. -/
theorem looksOneAhead_importAll : LooksOneAhead fun ts => plain (parseImportAll ts) := by
  intro ts s r h
  dsimp only at h
  rw [parseImportAll.eq_def] at h
  split at h
  · next m kw rest =>
    split at h
    · next hkw =>
      subst hkw
      cases h
      exact ⟨[.name m, .name "import", .symbol .star], by simp, rfl, fun _ _ => rfl⟩
    · contradiction
  · contradiction

theorem looksOneAhead_parseAs (make : Expr → Stmt) :
    LooksOneAhead fun ts => plain (parseAs make ts) := by
  have hmap := recognises_expression.looksOneAhead.map make
  intro ts s r h
  dsimp only at h ⊢
  rw [plain_parseAs] at h
  obtain ⟨taken, hne, hts, hagain⟩ := hmap h
  exact ⟨taken, hne, hts, fun r' hr => (plain_parseAs make _).trans (hagain hr)⟩

/-- What a keyword starts is decided by what is read behind it. -/
theorem decided_keyword {n : String} (hn : isKeyword n = true) {ts r : List Token} {s : Stmt}
    (h : plain (parseStatement (.name n :: ts)) = some (s, r)) :
    Decided (fun ts => plain (parseStatement ts)) (.name n :: ts) s r := by
  have hkeyword := plain_parseStatement_keyword hn
  by_cases himport : n = "import"
  · exact looksOneAhead_import.behind (fun us => (hkeyword us).trans (if_pos himport)) h
  by_cases hfrom : n = "from"
  · refine looksOneAhead_importAll.behind (fun us => ?_) h
    rw [hkeyword, if_neg himport, if_pos hfrom]
  · refine (looksOneAhead_parseAs .raise).behind (fun us => ?_) h
    rw [hkeyword, if_neg himport, if_neg hfrom, plain_parseAs]

/-- An assignment is decided by the expression behind its equals sign. -/
theorem decided_assign {n : String} (hn : isKeyword n = false) {ts r : List Token} {s : Stmt}
    (h : plain (parseStatement (.name n :: .symbol .equals :: ts)) = some (s, r)) :
    Decided (fun ts => plain (parseStatement ts)) (.name n :: .symbol .equals :: ts) s r := by
  have hequals : ∀ us, plain (parseStatement (.name n :: .symbol .equals :: us)) =
      plain (parseAs (.assign n) us) := by
    intro us
    rw [plain_parseStatement_assign, if_neg (Bool.not_eq_true _ ▸ hn), plain_parseAs]
  obtain ⟨taken, -, rfl, hagain⟩ := looksOneAhead_parseAs (.assign n) ((hequals ts).symm.trans h)
  exact ⟨.name n :: .symbol .equals :: taken, by simp, rfl,
    fun r' hr => (hequals (taken ++ r')).trans (hagain hr)⟩

/-- A statement looks ahead no further than its parts: the second token, which tells an assignment,
    is taken or is the first one left over. -/
theorem looksOneAhead_statement : LooksOneAhead fun ts => plain (parseStatement ts) := by
  intro ts s r h
  by_cases hname : ∃ n rest, ts = .name n :: rest
  · obtain ⟨n, rest, rfl⟩ := hname
    cases hn : isKeyword n with
    | true => exact decided_keyword hn h
    | false =>
      -- The second token tells an assignment, and it is taken or is the first one left over.
      by_cases hassign : ∃ rest', rest = .symbol .equals :: rest'
      · obtain ⟨rest, rfl⟩ := hassign
        exact decided_assign hn h
      · obtain ⟨himport, hfrom, hraise⟩ := ne_of_isKeyword hn
        refine (looksOneAhead_parseAs .expr).of_second (fun us hus hus' => ?_) h
        obtain ⟨us, rfl⟩ := List.head?_eq_some_iff.1 (List.head?_eq_getElem?.trans hus)
        rw [plain_parseStatement_name n, if_neg himport, if_neg hfrom, if_neg hraise,
          plain_parseAs]
        rintro us' rfl
        exact hassign (List.head?_eq_some_iff.1 (List.head?_eq_getElem?.trans hus'.symm))
  · refine (looksOneAhead_parseAs .expr).of_second (fun us hus _ => ?_) h
    rw [plain_parseStatement, plain_parseAs]
    rintro n us' rfl
    exact hname ⟨n, List.head?_eq_some_iff.1 (List.head?_eq_getElem?.trans hus.symm)⟩

/-! ## Positions -/

/-- What a rule reads from the position `p` on, and the position behind what it has read. -/
def readAt {α : Type} (rule : (ts : List Token) → Parsed α ts) (ts : List Token) (p : Nat) :
    Option (α × Nat) :=
  (plain (rule (ts.drop p))).map fun (a, r) => (a, ts.length - r.length)

section Positions

variable {α : Type} {rule : (ts : List Token) → Parsed α ts} {ts : List Token} {p q : Nat} {a : α}

theorem At.drop (h : p ≤ ts.length) : At ts p (ts.drop p) :=
  ⟨ts.take p, List.length_take_of_le h, (List.take_append_drop p ts).symm⟩

/-- A cursor that arrives where the rule does has the result and the position that the rule has. -/
theorem Arrives.eq_readAt {w : Cursor α} (h : Arrives w ts p (plain (rule (ts.drop p)))) :
    w ts p = (readAt rule ts p).elim (.error .mismatch) .ok := by
  rw [readAt]
  cases hread : plain (rule (ts.drop p)) with
  | none =>
    rw [hread] at h
    exact h
  | some x =>
    obtain ⟨a, r⟩ := x
    rw [hread] at h
    obtain ⟨q, hq, before, rfl, rfl⟩ := h
    have hlen : (before ++ r).length - r.length = before.length := by
      rw [List.length_append, Nat.add_sub_cancel]
    rw [hq, Option.map_some, Option.elim_some]
    exact congrArg (fun q => Except.ok (a, q)) hlen.symm

/-- A rule takes at least one token, and goes on to the position behind those it takes. -/
theorem exists_taken (hrule : LooksOneAhead fun ts => plain (rule ts))
    (h : readAt rule ts p = some (a, q)) :
    ∃ taken, ts.drop p = taken ++ ts.drop q ∧ q = p + taken.length ∧ p < q ∧ q ≤ ts.length ∧
      plain (rule (ts.drop p)) = some (a, ts.drop q) := by
  obtain ⟨⟨a, r⟩, hread, heq⟩ := Option.map_eq_some_iff.1 h
  cases heq
  obtain ⟨taken, hne, hdrop, -⟩ := hrule hread
  have hpos := List.length_pos_iff.2 hne
  have hlen := congrArg List.length hdrop
  rw [List.length_drop, List.length_append] at hlen
  have hq : ts.length - r.length = p + taken.length := by omega
  have hr : ts.drop (ts.length - r.length) = r := by
    rw [hq, ← List.drop_drop, hdrop, List.drop_left]
  exact ⟨taken, by rw [hr, hdrop], hq, by omega, by omega, by rw [hr, hread]⟩

/-- What a rule reads is the same wherever the tokens are the same from the position on up to the
    first one behind what is read. -/
theorem readAt_congr (hrule : LooksOneAhead fun ts => plain (rule ts))
    (h : readAt rule ts p = some (a, q)) {ts' : List Token}
    (hts : ∀ k, p ≤ k → k ≤ q → ts'[k]? = ts[k]?) : readAt rule ts' p = some (a, q) := by
  obtain ⟨taken, hdrop, hq, hlt, hle, hread⟩ := exists_taken hrule h
  have hdrop' : ts'.drop p = taken ++ ts'.drop q := by
    refine List.ext_getElem? fun i => ?_
    rw [List.getElem?_drop]
    by_cases hi : i < taken.length
    · rw [hts _ (by omega) (by omega), ← List.getElem?_drop, hdrop,
        List.getElem?_append_left hi, List.getElem?_append_left hi]
    · rw [List.getElem?_append_right (by omega), List.getElem?_drop]
      congr 1
      omega
  have hle' : q ≤ ts'.length := by
    -- The last token taken is there.
    have hlast := hts (q - 1) (by omega) (by omega)
    rw [List.getElem?_eq_getElem (show q - 1 < ts.length by omega)] at hlast
    have := (List.getElem?_eq_some_iff.1 hlast).1
    omega
  obtain ⟨taken', -, htaken, hagain⟩ := hrule hread
  obtain rfl : taken' = taken := List.append_cancel_right (htaken.symm.trans hdrop)
  have hhead : (ts'.drop q).head? = (ts.drop q).head? := by
    rw [List.head?_drop, List.head?_drop, hts q (by omega) (by omega)]
  have hread' : plain (rule (ts'.drop p)) = some (a, ts'.drop q) := by
    rw [hdrop']
    exact hagain hhead
  have hq' : ts'.length - (ts'.drop q).length = q := by
    rw [List.length_drop, Nat.sub_sub_self hle']
  exact (congrArg (Option.map _) hread').trans (congrArg (fun q => some (a, q)) hq')

end Positions

/-! ## Tokens that go on -/

namespace Grammar

theorem Suffixes.exists_append :
    ∀ ss more : Suffixes, ∃ ss' : Suffixes, ss'.tokens = ss.tokens ++ more.tokens
  | .nil, more => ⟨more, rfl⟩
  | .attr name rest, more => by
    obtain ⟨ss', h⟩ := rest.exists_append more
    exact ⟨.attr name ss', by rw [tokens, tokens, h]; rfl⟩
  | .call args rest, more => by
    obtain ⟨ss', h⟩ := rest.exists_append more
    exact ⟨.call args ss', by rw [tokens, tokens, h]; simp⟩

variable {more : List Token}

/-- What can stand behind every postfix expression can stand behind every unary expression. -/
theorem Unary.exists_append :
    ∀ u : Unary, (∀ p : Postfix, ∃ p' : Postfix, p'.tokens = p.tokens ++ more) →
      ∃ u' : Unary, u'.tokens = u.tokens ++ more
  | .neg u, h => by
    obtain ⟨u', hu⟩ := u.exists_append h
    exact ⟨.neg u', by rw [tokens, tokens, hu]; rfl⟩
  | .plain p, h => by
    obtain ⟨p', hp⟩ := h p
    exact ⟨.plain p', hp⟩

/-- What can stand behind every unary expression can stand behind every term. -/
theorem Term.exists_append (h : ∀ u : Unary, ∃ u' : Unary, u'.tokens = u.tokens ++ more) :
    ∀ (first : Unary) (rest : Factors),
      ∃ t : Term, t.tokens = (Term.mk first rest).tokens ++ more
  | first, .nil => by
    obtain ⟨u, hu⟩ := h first
    exact ⟨.mk u .nil, by rw [tokens, tokens, hu]; simp [Factors.tokens]⟩
  | first, .cons sign u rest => by
    obtain ⟨⟨u', rest'⟩, hu⟩ := Term.exists_append h u rest
    refine ⟨.mk first (.cons sign u' rest'), ?_⟩
    rw [tokens, tokens] at hu
    rw [tokens, tokens, Factors.tokens, Factors.tokens, hu]
    simp

/-- What can stand behind every term can stand behind every expression. -/
theorem Expression.exists_append (h : ∀ t : Term, ∃ t' : Term, t'.tokens = t.tokens ++ more) :
    ∀ (first : Term) (rest : Terms),
      ∃ e : Expression, e.tokens = (Expression.mk first rest).tokens ++ more
  | first, .nil => by
    obtain ⟨t, ht⟩ := h first
    exact ⟨.mk t .nil, by rw [tokens, tokens, ht]; simp [Terms.tokens]⟩
  | first, .cons sign t rest => by
    obtain ⟨⟨t', rest'⟩, ht⟩ := Expression.exists_append h t rest
    refine ⟨.mk first (.cons sign t' rest'), ?_⟩
    rw [tokens, tokens] at ht
    rw [tokens, tokens, Terms.tokens, Terms.tokens, ht]
    simp

/-- A dot or a parenthesis goes on with every postfix expression. -/
theorem Postfix.exists_longer {t : Token} (ht : extendsPostfix t = true) :
    ∃ more, ∀ p : Postfix, ∃ p' : Postfix, p'.tokens = p.tokens ++ t :: more := by
  have happend : ∀ (ss : Suffixes) (p : Postfix), ∃ p' : Postfix,
      p'.tokens = p.tokens ++ ss.tokens := by
    rintro ss ⟨head, rest⟩
    obtain ⟨rest', h⟩ := rest.exists_append ss
    exact ⟨.mk head rest', by rw [tokens, tokens, h, List.append_assoc]⟩
  unfold extendsPostfix at ht
  split at ht
  · exact ⟨[.name "x"], happend (.attr "x" .nil)⟩
  · exact ⟨[.symbol .parenClose], happend (.call .nil .nil)⟩
  · contradiction

theorem Unary.exists_longer {t : Token} (ht : extendsPostfix t = true) :
    ∃ more, ∀ u : Unary, ∃ u' : Unary, u'.tokens = u.tokens ++ t :: more := by
  obtain ⟨more, h⟩ := Postfix.exists_longer ht
  exact ⟨more, fun u => u.exists_append h⟩

/-- The sign of a product goes on with every term, and so does what goes on with its last factor. -/
theorem Term.exists_longer {t : Token} (ht : extendsTerm t = true) :
    ∃ more, ∀ d : Term, ∃ d' : Term, d'.tokens = d.tokens ++ t :: more := by
  have hsign : ∀ (sign : ProductSign) (d : Term), ∃ d' : Term,
      d'.tokens = d.tokens ++ sign.token :: [.int 0] := by
    rintro sign ⟨first, rest⟩
    refine ⟨.mk first (rest.snoc sign (.plain (.mk (.int 0) .nil))), ?_⟩
    rw [tokens, tokens, Factors.tokens_snoc, List.append_assoc]
    rfl
  unfold extendsTerm at ht
  split at ht
  · exact ⟨_, hsign .star⟩
  · exact ⟨_, hsign .slash⟩
  · obtain ⟨more, h⟩ := Unary.exists_longer ht
    refine ⟨more, ?_⟩
    rintro ⟨first, rest⟩
    exact Term.exists_append h first rest

/-- The sign of a sum goes on with every expression, and so does what goes on with its last term. -/
theorem Expression.exists_longer {t : Token} (ht : extendsExpression t = true) :
    ∃ more, ∀ e : Expression, ∃ e' : Expression, e'.tokens = e.tokens ++ t :: more := by
  have hsign : ∀ (sign : SumSign) (e : Expression), ∃ e' : Expression,
      e'.tokens = e.tokens ++ sign.token :: [.int 0] := by
    rintro sign ⟨first, rest⟩
    refine ⟨.mk first (rest.snoc sign (.mk (.plain (.mk (.int 0) .nil)) .nil)), ?_⟩
    rw [tokens, tokens, Terms.tokens_snoc, List.append_assoc]
    rfl
  unfold extendsExpression at ht
  split at ht
  · exact ⟨_, hsign .plus⟩
  · exact ⟨_, hsign .minus⟩
  · obtain ⟨more, h⟩ := Term.exists_longer ht
    refine ⟨more, ?_⟩
    rintro ⟨first, rest⟩
    exact Expression.exists_append h first rest

end Grammar

/-! ## Progress -/

/-- At every position of every sequence of tokens the rule comes to an end, and what it reads ends
    further on and depends on no token behind the first one that it leaves over. -/
structure Progresses {α : Type} (rule : (ts : List Token) → Parsed α ts)
    (walk : Nat → Cursor α) : Prop where
  /-- With depth enough for the tokens that are left, the cursor does what the rule does. -/
  terminates : ∀ (ts : List Token) (p depth : Nat), p ≤ ts.length →
    8 * (ts.length - p + 1) ≤ depth →
      walk depth ts p = (readAt rule ts p).elim (.error .mismatch) .ok
  advances : ∀ (ts : List Token) (p q : Nat) (a : α), readAt rule ts p = some (a, q) →
    p < q ∧ q ≤ ts.length
  looks_one_ahead : ∀ (ts ts' : List Token) (p q : Nat) (a : α), readAt rule ts p = some (a, q) →
    (∀ k, p ≤ k → k ≤ q → ts'[k]? = ts[k]?) → readAt rule ts' p = some (a, q)

/-- The tokens that the rule takes are a phrase of its kind, and the first one left over, if there
    is one, is none of those that go on with a phrase of the kind. -/
structure Greedy {α : Type} (rule : (ts : List Token) → Parsed α ts)
    (phrase : List Token → Prop) (goesOn : Token → Bool) : Prop where
  takes : ∀ (ts : List Token) (p q : Nat) (a : α), readAt rule ts p = some (a, q) →
    phrase ((ts.drop p).take (q - p))
  stops : ∀ (ts : List Token) (p q : Nat) (a : α), readAt rule ts p = some (a, q) →
    ∀ t, ts[q]? = some t → goesOn t = false
  goesOn_iff : ∀ (ts : List Token) (t : Token), phrase ts →
    (goesOn t = true ↔ ∃ more, phrase (ts ++ t :: more))

section Progress

variable {δ α : Type} {rule : (ts : List Token) → Parsed α ts} {walk : Nat → Cursor α}
  {tokens : δ → List Token} {tree : δ → α} {goesOn : Token → Bool}

/-- A rule makes progress if it looks ahead one token at most and a cursor of some depth does what
    it does. -/
theorem Progresses.of_cursor (hrule : LooksOneAhead fun ts => plain (rule ts))
    (hwalk : ∀ {ts us : List Token} {p depth : Nat}, At ts p us → 8 * (us.length + 1) ≤ depth →
      Arrives (walk depth) ts p (plain (rule us))) : Progresses rule walk := by
  refine ⟨fun ts p depth hp hdepth => ?_, fun ts p q a h => ?_,
    fun ts ts' p q a h hts => readAt_congr hrule h hts⟩
  · refine (hwalk (.drop hp) ?_).eq_readAt
    rwa [List.length_drop]
  · obtain ⟨taken, -, -, hlt, hle, -⟩ := exists_taken hrule h
    exact ⟨hlt, hle⟩

/-- A rule that reads what the grammar derives takes the longest phrase, if every phrase goes on
    with the tokens that are said to go on with it. -/
theorem Recognises.greedy (h : Recognises rule tokens tree goesOn)
    (hlonger : ∀ {t}, goesOn t = true → ∃ more, ∀ d, ∃ d', tokens d' = tokens d ++ t :: more) :
    Greedy rule (fun ts => ∃ d, tokens d = ts) goesOn := by
  refine ⟨fun ts p q a hread => ?_, fun ts p q a hread t ht => ?_, ?_⟩
  · obtain ⟨taken, hdrop, hq, -, -, hread⟩ := exists_taken h.looksOneAhead hread
    obtain ⟨d, hd, -⟩ := h.exists_derivation hread
    refine ⟨d, ?_⟩
    have htaken : taken = tokens d := List.append_cancel_right (hdrop.symm.trans hd)
    rw [hdrop, hq, Nat.add_sub_cancel_left, List.take_left, htaken]
  · obtain ⟨taken, -, -, -, -, hread⟩ := exists_taken h.looksOneAhead hread
    obtain ⟨-, -, -, hstops⟩ := h.exists_derivation hread
    obtain ⟨rest, hrest⟩ := List.head?_eq_some_iff.1 (List.head?_drop.trans ht)
    exact hstops t rest hrest
  · rintro _ t ⟨d, rfl⟩
    constructor
    · intro ht
      obtain ⟨more, hmore⟩ := hlonger ht
      exact ⟨more, hmore d⟩
    · rintro ⟨more, d', hd'⟩
      cases ht : goesOn t with
      | true => rfl
      | false => exact absurd hd' (h.ne_append ht d d' more)

end Progress

open Cursor in
/-- Every rule of the grammar makes progress from every position, by a recursion that ends, and
    looks ahead one token at most; and expressions of every kind are read as far as they go. -/
theorem rules_progress :
    (Progresses parseExpression readExpression ∧ Progresses parseTerm readTerm ∧
      Progresses parseUnary readUnary ∧ Progresses parsePostfix readPostfix ∧
      Progresses parsePrimary readPrimary ∧ Progresses parseStatement readStatement) ∧
    Greedy parseExpression (fun ts => ∃ d : Expression, d.tokens = ts) extendsExpression ∧
    Greedy parseTerm (fun ts => ∃ d : Term, d.tokens = ts) extendsTerm ∧
    Greedy parseUnary (fun ts => ∃ d : Unary, d.tokens = ts) extendsPostfix ∧
    Greedy parsePostfix (fun ts => ∃ d : Postfix, d.tokens = ts) extendsPostfix ∧
    Greedy parsePrimary (fun ts => ∃ d : Primary, d.tokens = ts) (fun _ => false) := by
  refine ⟨⟨?_, ?_, ?_, ?_, ?_, ?_⟩, ?_, ?_, ?_, ?_, ?_⟩
  · exact .of_cursor recognises_expression.looksOneAhead
      fun h hdepth => arrives_readExpression h (by omega)
  · exact .of_cursor recognises_term.looksOneAhead fun h hdepth => arrives_readTerm h (by omega)
  · exact .of_cursor recognises_unary.looksOneAhead fun h hdepth => arrives_readUnary h (by omega)
  · exact .of_cursor recognises_postfix.looksOneAhead
      fun h hdepth => arrives_readPostfix h (by omega)
  · exact .of_cursor recognises_primary.looksOneAhead
      fun h hdepth => arrives_readPrimary h (by omega)
  · exact .of_cursor looksOneAhead_statement fun h hdepth => arrives_readStatement h (by omega)
  · exact recognises_expression.greedy Expression.exists_longer
  · exact recognises_term.greedy Term.exists_longer
  · exact recognises_unary.greedy Unary.exists_longer
  · exact recognises_postfix.greedy Postfix.exists_longer
  · exact recognises_primary.greedy fun ht => absurd ht Bool.false_ne_true

-- The position behind `f(-x)` comes before the star, at which a postfix expression ends.
example : Cursor.readPostfix 64
    [.int 7, .name "f", .symbol .parenOpen, .symbol .minus, .name "x", .symbol .parenClose,
      .symbol .star] 1 = .ok (.call (.name "f") [.neg (.name "x")], 6) := by
  rfl

end LedBoard.Script
