import LedBoard.Proofs.Script.Parentheses
import LedBoard.Proofs.Session.Line

/-!
# Echoes that can be typed back

What a session echoes is the representation of a value, and a representation is often a source of
its own: the digits of an integer, a truth value by its name, a text between quotes
(`Object.Writable`). Such a source is read as an expression whose value is the one represented. So
a line that was echoed can be typed again, with or without white space around it, and the echo is
the same line.

Two values are left out of their kinds. A text cannot hold a single quote or the end of a line,
since a representation escapes nothing; and the least integer has no source, since the digits
behind its minus sign are those of an integer too great to be written.

* `trimChars_around`: the white space around a source is cut off;
* `Object.Writable.denotes`: the representation as a source;
* `Interpreter.evaluate_of_denotes`: the run of a representation;
* `echo_typed_back`: the statements together.
-/

namespace LedBoard

namespace Script

open Grammar

variable {σ : Type}

/-! ## Sources with white space around them -/

/-- White space around characters is cut off, if they neither start nor end with any. -/
theorem trimChars_around {before cs after : List Char}
    (hbefore : ∀ c ∈ before, Text.isBlank c = true) (hafter : ∀ c ∈ after, Text.isBlank c = true)
    (hne : cs ≠ []) (hhead : ∀ c ∈ cs.head?, Text.isBlank c = false)
    (hlast : ∀ c ∈ cs.getLast?, Text.isBlank c = false) :
    Text.trimChars (before ++ (cs ++ after)) = cs := by
  have hstart : ∀ c ∈ (cs ++ after).head?, Text.isBlank c = false := by
    rwa [List.head?_append_of_ne_nil _ hne]
  have hend : ∀ c ∈ cs.reverse.head?, Text.isBlank c = false := by
    rwa [List.head?_reverse]
  rw [Text.trimChars, dropWhile_run hbefore hstart, Text.trimEndChars, List.reverse_append,
    dropWhile_run (fun c hc => hafter c (List.mem_reverse.1 hc)) hend, List.reverse_reverse]

/-- The text is a line without white space around it: neither it nor the line with its end has
    anything cut off but the end. -/
def IsTrimmed (text : String) : Prop :=
  Text.trim text = text ∧ Text.trim (text ++ "\n") = text

theorem isTrimmed_of_ends {text : String} (hne : text.toList ≠ [])
    (hhead : ∀ c ∈ text.toList.head?, Text.isBlank c = false)
    (hlast : ∀ c ∈ text.toList.getLast?, Text.isBlank c = false) : IsTrimmed text := by
  have htrim : ∀ after : List Char, (∀ c ∈ after, Text.isBlank c = true) →
      Text.trim (text ++ String.ofList after) = text := by
    intro after hafter
    have hnone : ∀ c ∈ ([] : List Char), Text.isBlank c = true := List.forall_mem_nil _
    have hchars := trimChars_around hnone hafter hne hhead hlast
    rw [Text.trim, String.toList_append, String.toList_ofList]
    rw [List.nil_append] at hchars
    rw [hchars, String.ofList_toList]
  refine ⟨?_, htrim ['\n'] (List.forall_mem_singleton.2 rfl)⟩
  have hnothing := htrim [] fun c hc => absurd hc List.not_mem_nil
  rwa [String.ofList_nil, String.append_empty] at hnothing

/-- No white space stands in a name. -/
theorem isTrimmed_of_isName {text : String} (h : IsName text.toList) : IsTrimmed text := by
  obtain ⟨c, cs, htext, hc, hcs⟩ := h
  have hpart : ∀ a ∈ text.toList, isNamePart a = true := by
    rw [htext]
    exact List.forall_mem_cons.2 ⟨isNamePart_of_isNameStart hc, hcs⟩
  have hblank : ∀ a ∈ text.toList, Text.isBlank a = false := fun a ha =>
    isBlank_eq_false (hpart a ha)
  refine isTrimmed_of_ends ?_ (fun a ha => hblank a (List.mem_of_mem_head? ha))
    fun a ha => hblank a (List.mem_of_mem_getLast? ha)
  rw [htext]
  exact List.cons_ne_nil c cs

/-- What is read as an expression does not depend on the white space around it. -/
theorem expressionOf?_of_trim {code text : String} (hcode : Text.trim code = text)
    (htext : Text.trim text = text) : expressionOf? code = expressionOf? text := by
  have hchars : Text.trimChars code.toList = Text.trimChars text.toList := by
    rw [Text.trim, ← String.toList_inj, String.toList_ofList] at hcode htext
    rw [hcode, htext]
  rw [expressionOf?, expressionOf?, hchars]

/-- The representation of the value is a source of it. -/
def Object.Writable : Object σ → Prop
  | .int n => Int64.minValue < n
  | .bool _ => True
  | .str s => '\'' ∉ s.toList ∧ '\n' ∉ s.toList
  | _ => False

/-- The text represents the value, and is the source of an expression with this value wherever the
    names of the truth values are not bound. -/
structure Denotes (text : String) (v : Object σ) : Prop where
  repr : v.repr = .ok text
  trimmed : IsTrimmed text
  value : ∃ e, expressionOf? text = some e ∧ ∀ i : Interpreter σ, i.globals "True" = none →
    i.globals "False" = none → ∀ s, (i.eval e).run s = .ok (.ok v, s)

/-! ## Integers -/

theorem Arith.Form.text_ne_nil {l : Nat} (w : Arith.Form l) : w.text ≠ [] := by
  cases w with
  | literal n h => exact Nat.toDigits_ne_nil
  | neg parens e h => exact List.cons_ne_nil _ _
  | binary op parens a ha parens' b hb =>
    exact List.append_ne_nil_of_right_ne_nil _ (List.cons_ne_nil _ _)

/-- The way to write an integer that is not the least: its digits, behind a minus sign if it is
    negative. -/
theorem exists_form {n : Int64} (h : Int64.minValue < n) :
    ∃ w : Arith.Form 2, w.source = Text.decimal n.toInt ∧ w.tree.Fits ∧
      w.tree.result = some n.toInt := by
  have hlow := Int64.lt_iff_toInt_lt.1 h
  have hhigh := n.toInt_lt
  rw [Int64.toInt_minValue] at hlow
  have hlimit : n.toInt.natAbs < integerLimit := by
    unfold integerLimit
    omega
  have hliteral : (Arith.literal n.toInt.natAbs hlimit).NoQuotient := trivial
  -- Only the least integer has digits that are too great, so a minus sign may stand before these.
  by_cases hneg : n.toInt < 0
  · refine ⟨.neg false (.literal _ hlimit) (.inr (Nat.le_refl 2)), ?_, ?_, ?_⟩
    · rw [Text.decimal, if_pos hneg]
      exact (@String.ofList_append ['-'] _).trans rfl
    · refine Arith.fits_of_noQuotient (e := .neg (.literal _ hlimit)) hliteral fun a ha => ?_
      cases ha with
      | self =>
        rw [Arith.value, Arith.wrap_literal hlimit]
        unfold least
        omega
      | neg ha => cases ha
    · change some (wrap (-(n.toInt.natAbs : Int))) = _
      rw [show -(n.toInt.natAbs : Int) = n.toInt by omega]
      exact congrArg some (Int.bmod_eq_of_le (by omega) (by omega))
  · refine ⟨.literal _ hlimit, ?_, ?_, ?_⟩
    · rw [Text.decimal, if_neg hneg]
      rfl
    · exact Arith.fits_of_noQuotient (e := .literal _ hlimit) hliteral fun a ha => by cases ha
    · exact congrArg some (by omega)

theorem denotes_int {n : Int64} (h : Int64.minValue < n) :
    Denotes (Text.decimal n.toInt) (.int n : Object σ) := by
  obtain ⟨w, hsource, hfits, hresult⟩ := exists_form h
  refine ⟨rfl, ?_, w.tree.expr, hsource ▸ w.expressionOf?_source, fun i _ _ s => ?_⟩
  · have hblank := w.isBlank_text
    rw [← hsource, Arith.Form.source]
    refine isTrimmed_of_ends ?_ ?_ ?_ <;> rw [String.toList_ofList]
    · exact w.text_ne_nil
    · exact fun c hc => hblank c (List.mem_of_mem_head? hc)
    · exact fun c hc => hblank c (List.mem_of_mem_getLast? hc)
  · obtain ⟨r, hr, hrun⟩ := Arith.eval_expr hfits i s
    rw [hresult] at hr
    cases r with
    | none => cases hr
    | some m =>
      obtain rfl : n = m := Int64.toInt_inj.1 (Option.some.inj hr)
      exact hrun

/-- The digits of the least integer are those of an integer that is too great. -/
theorem stuck_digits_least : Stuck (Nat.toDigits 10 integerLimit) := by
  have hdigits : ∀ d ∈ Nat.toDigits 10 integerLimit, d.isDigit = true := fun d hd =>
    Nat.isDigit_of_mem_toDigits (by decide) (by decide) hd
  have hvalue : digitsValue (Nat.toDigits 10 integerLimit) = integerLimit :=
    digitsValue_toDigits 0 integerLimit
  have hstuck := Stuck.tooGreat (r := []) Nat.toDigits_ne_nil hdigits
    (fun a ha => absurd ha (by simp)) (Nat.le_of_eq hvalue.symm)
  rwa [List.append_nil] at hstuck

/-- So the least integer has no source. -/
theorem expressionOf?_least :
    IsTrimmed (Text.decimal Int64.minValue.toInt) ∧
      expressionOf? (Text.decimal Int64.minValue.toInt) = none := by
  have htext : Text.decimal Int64.minValue.toInt =
      String.ofList ('-' :: Nat.toDigits 10 integerLimit) := by
    rw [Int64.toInt_minValue, Text.decimal, if_pos (by decide)]
    exact (@String.ofList_append ['-'] _).symm
  have hblank : ∀ c ∈ '-' :: Nat.toDigits 10 integerLimit, Text.isBlank c = false := by
    refine List.forall_mem_cons.2 ⟨by decide, fun c hc => ?_⟩
    exact isBlank_eq_false (isNamePart_of_isDigit
      (Nat.isDigit_of_mem_toDigits (by decide) (by decide) hc))
  rw [htext]
  constructor
  · refine isTrimmed_of_ends ?_ ?_ ?_ <;> rw [String.toList_ofList]
    · exact List.cons_ne_nil _ _
    · exact fun c hc => hblank c (List.mem_of_mem_head? hc)
    · exact fun c hc => hblank c (List.mem_of_mem_getLast? hc)
  -- The minus sign is scanned by itself, and then the digits are too great.
  · have hscan : tokenize ('-' :: Nat.toDigits 10 integerLimit) = none :=
      tokenize_eq_none_iff.2 ⟨_, .step (.symbol .minus _) (.refl _), stuck_digits_least⟩
    rw [expressionOf?, String.toList_ofList, trimChars_eq_self hblank, hscan]
    rfl

/-! ## Truth values and texts -/

/-- A token that is spelled and nothing else. -/
theorem Spells.tokenize_eq {t : Token} {s : List Char} (h : Spells t s) :
    tokenize s = some [t] := by
  have hscan := (h.lexeme (r := []) fun a ha => absurd ha (by simp)).tokenize_eq
  rwa [List.append_nil, tokenize_nil, Option.map_some, List.append_nil] at hscan

/-- A source of one token that is a primary expression. -/
theorem expressionOf?_primary {text : String} (htext : IsTrimmed text) (p : Primary) {t : Token}
    (ht : p.tokens = [t]) (hspells : Spells t text.toList) :
    expressionOf? text = some p.tree := by
  have hchars : Text.trimChars text.toList = text.toList := by
    have htrim := htext.1
    rwa [Text.trim, ← String.toList_inj, String.toList_ofList] at htrim
  refine expressionOf?_eq_some_iff.2 ⟨.mk (.mk (.plain (.mk p .nil)) .nil) .nil, ?_, rfl⟩
  rw [hchars, hspells.tokenize_eq, Expression.tokens, Terms.tokens, Term.tokens, Factors.tokens,
    Unary.tokens, Postfix.tokens, Suffixes.tokens, List.append_nil, List.append_nil,
    List.append_nil, ht]

theorem denotes_bool (b : Bool) :
    Denotes (if b then "True" else "False") (.bool b : Object σ) := by
  cases b with
  | true =>
    have hname : IsName "True".toList :=
      ⟨'T', ['r', 'u', 'e'], rfl, by decide, List.all_eq_true.1 rfl⟩
    have htrimmed := isTrimmed_of_isName hname
    refine ⟨rfl, htrimmed, _, expressionOf?_primary htrimmed (.name "True" rfl) rfl (.name hname),
      fun i htrue _ s => ?_⟩
    change (i.eval (.name "True")).run s = _
    rw [Interpreter.eval, Interpreter.lookup, htrue]
    rfl
  | false =>
    have hname : IsName "False".toList :=
      ⟨'F', ['a', 'l', 's', 'e'], rfl, by decide, List.all_eq_true.1 rfl⟩
    have htrimmed := isTrimmed_of_isName hname
    refine ⟨rfl, htrimmed, _, expressionOf?_primary htrimmed (.name "False" rfl) rfl (.name hname),
      fun i _ hfalse s => ?_⟩
    change (i.eval (.name "False")).run s = _
    rw [Interpreter.eval, Interpreter.lookup, hfalse]
    rfl

theorem denotes_str {s : String} (hquote : '\'' ∉ s.toList) (hline : '\n' ∉ s.toList) :
    Denotes ("'" ++ s ++ "'") (.str s : Object σ) := by
  have htext : ("'" ++ s ++ "'").toList = '\'' :: (s.toList ++ ['\'']) := by
    rw [String.toList_append, String.toList_append]
    rfl
  have htrimmed : IsTrimmed ("'" ++ s ++ "'") := by
    refine isTrimmed_of_ends ?_ ?_ ?_ <;> rw [htext]
    · exact List.cons_ne_nil _ _
    · rintro _ ⟨⟩
      decide
    · intro c hc
      rw [← List.cons_append, List.getLast?_concat] at hc
      cases hc
      decide
  refine ⟨rfl, htrimmed, _, expressionOf?_primary htrimmed (.str s) rfl ?_, fun i _ _ t => ?_⟩
  · rw [htext]
    exact .str rfl hquote hline
  · change (i.eval (.str s)).run t = _
    rw [Interpreter.eval]
    rfl

/-- The representation of a value that can be written denotes it. -/
theorem Object.Writable.denotes {v : Object σ} (h : v.Writable) : ∃ text, Denotes text v := by
  cases v with
  | int n => exact ⟨_, denotes_int h⟩
  | bool b => exact ⟨_, denotes_bool b⟩
  | str s => exact ⟨_, denotes_str h.1 h.2⟩
  | _ => exact h.elim

/-! ## The run of a representation -/

namespace Interpreter

variable (i : Interpreter σ)

theorem complete_of_writable {v : Object σ} (h : v.Writable) {text : String}
    (hrepr : v.repr = .ok text) : i.complete (.ok v) = (.value text, i) := by
  cases v with
  | none => exact h.elim
  | _ => rw [complete.eq_def]; simp only [hrepr]

/-- A representation with white space around it is run to the value, and nothing else happens. -/
theorem evaluate_of_denotes {v : Object σ} (hv : v.Writable) {text code : String}
    (h : Denotes text v) (hcode : Text.trim code = text) (htrue : i.globals "True" = none)
    (hfalse : i.globals "False" = none) (s : σ) :
    (expressionOf? code).isSome = true ∧
      i.evaluate code s = .ok ((.value text, i.counted), s) := by
  obtain ⟨e, he, hvalue⟩ := h.value
  rw [← expressionOf?_of_trim hcode h.trimmed.1] at he
  refine ⟨Option.isSome_of_eq_some he, ?_⟩
  rw [i.evaluate_eq he, Run.map_apply, hvalue i.counted htrue hfalse s]
  change Except.ok (i.counted.complete (.ok v), s) = _
  rw [i.counted.complete_of_writable hv h.repr]

end Interpreter

end Script

namespace Session

open Script (Interpreter Object Denotes IsTrimmed)

/-- A representation that is entered is run as an expression, and the representation is echoed. -/
theorem execute_of_denotes {v : Object Host} (hv : v.Writable) {text code : String}
    (h : Denotes text v) (hcode : Text.trim code = text) {t : Session (Interpreter Host)}
    (htrue : t.live.globals "True" = none) (hfalse : t.live.globals "False" = none)
    (w : Script.Supply × Host) :
    execute Script.engine t code w =
      .ok ((.expression, ⟨t.live.counted.clearPending, t.checker.clearPending, false⟩),
        (w.1, report (.value text) (w.2.emit (.inputRun .expression)))) := by
  obtain ⟨hread, hrun⟩ := t.live.evaluate_of_denotes hv h hcode htrue hfalse w.2
  have hmode : modeOf code = .expression := if_pos hread
  have hinput : t.live.input (modeOf code) code w.2 =
      .ok ((.value text, t.live.counted), w.2) := by
    rw [hmode]
    exact hrun
  rw [execute_apply, hinput, hmode]
  rfl

/-- The echo is appended to the output as a line. -/
theorem text_report_value {h : Host} (hq : h.Quiet) (text : String) :
    (report (.value text) (h.emit (.inputRun .expression))).output.text =
      h.output.text ++ (text ++ "\n") := by
  have hlogged := h.emit_grown (e := .inputRun .expression) rfl
  have hgrown := hlogged.trans (report_grown (hlogged.quiet hq) (.value text))
  rw [String.empty_append] at hgrown
  exact hgrown.text

/-- Where `True` and `False` are not bound, the representation of a value that can be written is a
    source: with or without white space around it, and as a line with its end, it is run to this
    value, has the same representation again, and only the run is counted. Of all integers only
    the least has a representation that is no script. In a session, whatever its interpreter and
    its host are in, entering the echo of such a value echoes the same line and binds nothing,
    so that it can be entered again. -/
theorem echo_typed_back {σ : Type} {i : Interpreter σ} (htrue : i.globals "True" = none)
    (hfalse : i.globals "False" = none) (s : σ) :
    (∀ v : Object σ, v.Writable → ∃ text, v.repr = .ok text ∧ IsTrimmed text ∧
      ∀ code, Text.trim code = text →
        i.evaluate code s = .ok ((.value text, i.counted), s) ∧
          i.counted.globals = i.globals) ∧
    (∀ (n : Int64) code, Text.trim code = Text.decimal n.toInt →
      (i.evaluate code s = .ok ((.error "SyntaxError: invalid syntax\n",
        { i.counted with pending := some .badSource }), s) ↔ n = Int64.minValue)) ∧
    ∀ (t : Session (Interpreter Host)) (w : Script.Supply × Host),
      t.live.globals "True" = none → t.live.globals "False" = none →
      ∀ (v : Object Host) text, v.Writable → v.repr = .ok text →
        ∀ code, Text.trim code = text →
          ∃ t' h', execute Script.engine t code w = .ok ((.expression, t'), (w.1, h')) ∧
            h' = report (.value text) (w.2.emit (.inputRun .expression)) ∧
            (w.2.Quiet → h'.output.text = w.2.output.text ++ (text ++ "\n")) ∧
            t'.live.globals = t.live.globals ∧ t'.shouldExit = false := by
  refine ⟨fun v hv => ?_, fun n code hcode => ?_,
    fun t w htrue' hfalse' v text hv hrepr code hcode => ?_⟩
  · obtain ⟨text, h⟩ := hv.denotes
    exact ⟨text, h.repr, h.trimmed, fun code hcode =>
      ⟨(i.evaluate_of_denotes hv h hcode htrue hfalse s).2, rfl⟩⟩
  · constructor
    · intro herror
      -- Any other integer is denoted by its digits, and its run has a value.
      by_contra hn
      have hv : (Object.int n : Object σ).Writable :=
        Int64.lt_of_le_of_ne (Int64.minValue_le n) (Ne.symm hn)
      have hrun := (i.evaluate_of_denotes hv (Script.denotes_int hv) hcode htrue hfalse s).2
      cases hrun.symm.trans herror
    · rintro rfl
      obtain ⟨htrimmed, hnone⟩ := Script.expressionOf?_least
      rw [← Script.expressionOf?_of_trim hcode htrimmed.1] at hnone
      exact i.evaluate_of_none hnone s
  · obtain ⟨text', h⟩ := hv.denotes
    obtain rfl : text' = text := Except.ok.inj (h.repr.symm.trans hrepr)
    exact ⟨_, _, execute_of_denotes hv h hcode htrue' hfalse' w, rfl,
      fun hq => text_report_value hq text', rfl, rfl⟩

/-- A text with a comment sign and the other quote in it, the greatest integer that a minus sign
    can stand before, and the one that is less by one. -/
theorem echo_typed_back_extreme :
    let i : Interpreter Unit := { globals := Bindings.empty.bind "x" (.bool true) }
    i.globals "True" = none ∧ i.globals "False" = none ∧
      i.evaluate "\t'\"1\" # ;'\n" () = .ok ((.value "'\"1\" # ;'", i.counted), ()) ∧
      i.evaluate "-9223372036854775807\n" () =
        .ok ((.value "-9223372036854775807", i.counted), ()) ∧
      i.evaluate "-9223372036854775808\n" () = .ok ((.error "SyntaxError: invalid syntax\n",
        { i.counted with pending := some .badSource }), ()) := by
  intro i
  obtain ⟨hvalues, hleast, -⟩ := echo_typed_back (i := i) rfl rfl ()
  refine ⟨rfl, rfl, ?_, ?_, (hleast .minValue _ (by decide +kernel)).2 rfl⟩
  · obtain ⟨text, hrepr, -, hrun⟩ := hvalues (.str "\"1\" # ;") ⟨by decide, by decide⟩
    obtain rfl : "'\"1\" # ;'" = text := Except.ok.inj hrepr
    exact (hrun _ (by decide +kernel)).1
  · obtain ⟨text, hrepr, -, hrun⟩ := hvalues (.int (-9223372036854775807))
      (show Int64.minValue < -9223372036854775807 by decide)
    obtain rfl : "-9223372036854775807" = text := by
      rw [← Except.ok.inj hrepr]
      decide +kernel
    exact (hrun _ (by decide +kernel)).1

end Session

end LedBoard
