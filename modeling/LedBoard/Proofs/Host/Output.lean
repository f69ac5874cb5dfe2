import LedBoard.Proofs.Host.Trace

/-!
# The output of a host

What is printed is appended to the output, and a listener in place hears it. As long as the
listener does nothing further, the output grows by exactly what is printed, and what the listener
hears is what the output grows by (`Grown`), piece by piece and so altogether.

* `print_grown`, `emit_grown`: what the output grows by at one step;
* `Grown.trans`: and at several.
-/

namespace LedBoard.Host

/-- A listener that is in place does nothing but hear. -/
def Quiet (h : Host) : Prop := ∀ l ∈ h.output.listener, l.acts = []

/-- Since `h₀` the output has grown by a text, and this text is what a listener has heard. -/
structure Grown (h₀ : Host) (text : String) (h : Host) : Prop where
  output : h.output = { h₀.output with text := h₀.output.text ++ text }
  events : ∃ events, h.events = h₀.events ++ events ∧
    (h₀.output.listener.isSome = true → String.join (Event.chunks events) = text)

/-- What the output has grown by since `h₀`. -/
def since (h₀ h : Host) : String :=
  .ofList (h.output.text.toList.drop h₀.output.text.toList.length)

/-- What was printed since the output was empty is all of the output. -/
theorem since_of_empty {h₀ : Host} (he : h₀.output.text = "") (h : Host) :
    h₀.since h = h.output.text := by
  rw [since, he]
  exact String.ofList_toList

namespace Grown

variable {h₀ h₁ h : Host} {a b : String}

theorem refl (h : Host) : Grown h "" h := by
  refine ⟨by rw [String.append_empty], [], (List.append_nil _).symm, fun _ => ?_⟩
  exact String.join_nil

/-- Texts that are printed one after the other are joined. -/
theorem trans (ha : Grown h₀ a h₁) (hb : Grown h₁ b h) : Grown h₀ (a ++ b) h := by
  obtain ⟨eventsA, hA, heardA⟩ := ha.events
  obtain ⟨eventsB, hB, heardB⟩ := hb.events
  rw [ha.output] at heardB
  refine ⟨?_, eventsA ++ eventsB, ?_, fun hl => ?_⟩
  · rw [hb.output, ha.output, String.append_assoc]
  · rw [hB, hA, List.append_assoc]
  · rw [← heardA hl, ← heardB hl, Event.chunks, List.filterMap_append, String.join_append]
    rfl

/-- The listener in place stays the one that was there, and so goes on hearing only. -/
theorem quiet (ha : Grown h₀ a h) (hq : h₀.Quiet) : h.Quiet := by
  rw [Quiet, ha.output]
  exact hq

theorem text (ha : Grown h₀ a h) : h.output.text = h₀.output.text ++ a := by rw [ha.output]

theorem since_eq (ha : Grown h₀ a h) : h₀.since h = a := by
  rw [since, ha.text, String.toList_append, List.drop_left, String.ofList_toList]

end Grown

/-- An event that no listener hears leaves the output alone. -/
theorem emit_grown (h : Host) {e : Event} (he : e.chunk? = none) : Grown h "" (h.emit e) := by
  refine ⟨by rw [String.append_empty]; rfl, [e], Array.toList_push .., fun _ => ?_⟩
  rw [Event.chunks, List.filterMap_cons_none he, List.filterMap_nil, String.join_nil]

/-- The event may come after text that was printed. -/
theorem Grown.emit {h₀ h : Host} {a : String} (ha : Grown h₀ a h) {e : Event}
    (he : e.chunk? = none) : Grown h₀ a (h.emit e) := by
  have hgrown := ha.trans (emit_grown h he)
  rwa [String.append_empty] at hgrown

/-- A listener that only hears is told of every chunk, and stays in place. -/
theorem append_quiet {b : Output.Buffer} (hq : ∀ l ∈ b.listener, l.acts = []) {chunk : String}
    (hchunk : chunk.isEmpty = false) :
    b.append chunk = ({ b with text := b.text ++ chunk },
      b.listener.toList.map fun l => .heard l.name chunk) := by
  rw [Output.Buffer.append, hchunk]
  cases hl : b.listener with
  | none => simp
  | some l => simp [hq l hl, Output.performAll]

/-- A chunk that is printed with a listener that only hears is put at the end of the output, and the
    listener is told of it and nothing else. -/
theorem print_grown {h : Host} (hq : h.Quiet) (chunk : String) :
    Grown h chunk (h.print chunk) := by
  cases hchunk : chunk.isEmpty with
  | true =>
    rw [print, Output.Buffer.append, hchunk, String.isEmpty_iff.1 hchunk]
    exact .refl h
  | false =>
    rw [print, append_quiet hq hchunk]
    refine ⟨emitAll_output .., _, emitAll_events .., fun hl => ?_⟩
    obtain ⟨l, hl⟩ := Option.isSome_iff_exists.1 hl
    simp [hl, heardEvent?, Event.chunks, Event.chunk?]

end LedBoard.Host
