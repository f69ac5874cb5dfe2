import LedBoard.Proofs.Board.Calls
import LedBoard.Proofs.Host.Output

/-!
# The passage of events

From one moment of a host to a later one certain events pass: the trace is longer by them, and the
display has followed the commands among them. On a host where a listener hears what is printed,
and does nothing further, the events that a script brings about can be told from what it does:
each of its calls brings about what the board does then, and each chunk of text that is not empty
is heard.

* `Host.Passed`: the events that passed, with `refl` and `trans`;
* `Deed.happenings`: what a deed of a script brings about, a print or a call;
* `print_passed`, `Acts.passed`: what passes at a print, and at a call of a function of the board.
-/

namespace LedBoard

namespace Host

/-- From `h` to the later `h'` these events passed; the frames of scrolling text are held for as
    long, and the same listener listens. -/
structure Passed (h : Host) (xs : List Event) (h' : Host) : Prop where
  events : h'.events = h.events ++ xs
  leds : h'.leds = h.leds.replay (Event.commands xs)
  frameMs : h'.frameMs = h.frameMs
  listener : h'.output.listener = h.output.listener

theorem Passed.refl (h : Host) : Passed h [] h := ⟨(List.append_nil _).symm, rfl, rfl, rfl⟩

/-- What passed from the first host to the third is what passed up to the second and from there on.
    -/
theorem Passed.trans {h₀ h₁ h : Host} {xs ys : List Event} (hx : Passed h₀ xs h₁)
    (hy : Passed h₁ ys h) : Passed h₀ (xs ++ ys) h where
  events := by rw [hy.events, hx.events, List.append_assoc]
  leds := by
    rw [hy.leds, hx.leds, Event.commands_append, Leds.replay, Leds.replay, Leds.replay,
      List.foldl_append]
  frameMs := hy.frameMs.trans hx.frameMs
  listener := hy.listener.trans hx.listener

/-- When events happen, these pass. -/
theorem emitAll_passed (h : Host) (events : List Event) : Passed h events (h.emitAll events) where
  events := h.emitAll_events events
  leds := (h.emitAll_leds events).trans (Event.foldl_onLeds h.leds events)
  frameMs := (h.emitAll_sent events).frameMs
  listener := congrArg Output.Buffer.listener (h.emitAll_output events)

theorem emit_passed (h : Host) (event : Event) : Passed h [event] (h.emit event) :=
  h.emitAll_passed [event]

/-- A listener is in place, which does nothing but hear. -/
def Heard (h : Host) : Prop := ∃ l, h.output.listener = some l ∧ l.acts = []

/-- Whatever passes, the listener stays. -/
theorem Heard.passed {h h' : Host} {events : List Event} (hheard : h.Heard)
    (hpassed : Passed h events h') : h'.Heard := by
  rwa [Heard, hpassed.listener]

end Host

/-- A chunk is heard, unless it is empty. -/
def Event.hearing (chunk : String) : List Event := if chunk.isEmpty then [] else [.heard chunk]

/-- What a deed of a script brings about where somebody listens. -/
def Deed.happenings (frameMs : UInt64) : Deed → List Event
  | .printed chunk => Event.hearing chunk
  | .called name args => (called name args).events frameMs

/-- A chunk that is printed where somebody listens is heard, if it is not empty. -/
theorem Host.print_passed {h : Host} (hheard : h.Heard) (chunk : String) :
    h.Passed (Event.hearing chunk) (h.print chunk) := by
  rw [Event.hearing]
  cases hchunk : chunk.isEmpty with
  | true =>
    rw [if_pos rfl, Host.print, Output.Buffer.append, hchunk]
    exact .refl h
  | false =>
    obtain ⟨l, hl, hquiet⟩ := hheard
    have hacts : ∀ l' ∈ h.output.listener, l'.acts = [] := by
      rw [hl]
      rintro _ ⟨⟩
      exact hquiet
    rw [if_neg Bool.false_ne_true, Host.print, Host.append_quiet hacts hchunk, hl]
    have hpassed := Host.emitAll_passed
      { h with output := { h.output with text := h.output.text ++ chunk } } [.heard chunk]
    exact ⟨hpassed.events, hpassed.leds, hpassed.frameMs, hl.symm⟩

/-- At a call of a function of the board what passes can be told from its name and its arguments. -/
theorem Devices.Acts.passed {name : String} {f : Native Host} (hf : Devices.Acts name f)
    {args : List Value} {h h' : Host} {r : Except ScriptError Value}
    (hrun : (f args).run h = .ok (r, h')) :
    h.Passed ((Deed.called name args).happenings h.frameMs) h' := by
  obtain ⟨answer, sensors, hacts⟩ := hf args h.setting
  cases (hacts h rfl).symm.trans hrun
  have hpassed := h.emitAll_passed ((Deed.called name args).events h.frameMs)
  exact ⟨hpassed.events, hpassed.leds, hpassed.frameMs, hpassed.listener⟩

end LedBoard
