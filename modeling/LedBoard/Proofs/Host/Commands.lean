import LedBoard.Proofs.Host.Trace

/-!
# What a host sends to its display

Among the events of a host, the commands alone reach the display, so the display is the one that
the commands sent so far lead to. Printing makes a listener hear chunks and sends nothing.

* `Event.foldl_onLeds`: the display follows the commands among the events;
* `Event.silent`: the events that no listener of the output hears;
* `Host.Sent`: the commands that were sent from one moment to a later one, with `refl` and
  `trans`, and what is sent in one step.
-/

namespace LedBoard

namespace Event

theorem commands_append (a b : List Event) : commands (a ++ b) = commands a ++ commands b :=
  List.filterMap_append ..

/-- The display follows the commands among the events. -/
theorem foldl_onLeds (leds : Leds) (events : List Event) :
    events.foldl onLeds leds = leds.replay (commands events) := by
  induction events generalizing leds with
  | nil => rfl
  | cons event rest ih => cases event <;> exact ih _

/-- The events that no listener of the output hears. -/
def silent (events : List Event) : List Event := events.filter (·.chunk?.isNone)

theorem silent_append (a b : List Event) : silent (a ++ b) = silent a ++ silent b :=
  List.filter_append ..

/-- What is heard is no command. -/
theorem commands_silent (events : List Event) : commands (silent events) = commands events := by
  induction events with
  | nil => rfl
  | cons event rest ih =>
    cases event with
    | command c => exact congrArg (c :: ·) ih
    | _ => exact ih

/-- What is heard is no pause. -/
theorem pauses_silent (events : List Event) : pauses (silent events) = pauses events := by
  induction events with
  | nil => rfl
  | cons event rest ih =>
    cases event with
    | pause ms => exact congrArg (ms :: ·) ih
    | _ => exact ih

end Event

namespace Host

/-- Between `h` and the later `h'` the commands `sent` went to the display, and the settings have
    stayed. -/
structure Sent (h : Host) (sent : List Command) (h' : Host) : Prop where
  microphone : h'.microphone = h.microphone
  frameMs : h'.frameMs = h.frameMs
  commands : Event.commands h'.events = Event.commands h.events ++ sent
  leds : h'.leds = h.leds.replay sent

theorem Sent.refl (h : Host) : Sent h [] h := ⟨rfl, rfl, (List.append_nil _).symm, rfl⟩

/-- What is sent in two parts is sent in all, in this order. -/
theorem Sent.trans {h₀ h₁ h : Host} {a b : List Command} (ha : Sent h₀ a h₁) (hb : Sent h₁ b h) :
    Sent h₀ (a ++ b) h where
  microphone := hb.microphone.trans ha.microphone
  frameMs := hb.frameMs.trans ha.frameMs
  commands := by rw [hb.commands, ha.commands, List.append_assoc]
  leds := by rw [hb.leds, ha.leds, Leds.replay, Leds.replay, Leds.replay, List.foldl_append]

/-- What does not concern the trace and the display sends nothing. -/
theorem Sent.of_eq {h h' : Host} (hmicrophone : h'.microphone = h.microphone)
    (hframeMs : h'.frameMs = h.frameMs) (htrace : h'.trace = h.trace) (hleds : h'.leds = h.leds) :
    Sent h [] h' :=
  ⟨hmicrophone, hframeMs, by rw [events, events, htrace, List.append_nil], hleds⟩

/-- An event sends the command it is, if it is one. -/
theorem emit_sent (h : Host) (event : Event) : Sent h event.command?.toList (h.emit event) where
  microphone := rfl
  frameMs := rfl
  commands := by
    have hevents : (h.emit event).events = h.events ++ [event] := Array.toList_push ..
    rw [hevents, Event.commands_append]
    cases event <;> rfl
  leds := by cases event <;> rfl

/-- Events send the commands among them. -/
theorem emitAll_sent (h : Host) (events : List Event) :
    Sent h (Event.commands events) (h.emitAll events) := by
  induction events generalizing h with
  | nil => exact .refl h
  | cons event rest ih =>
    have hsent := (emit_sent h event).trans (ih _)
    cases event <;> exact hsent

/-- What listeners leave behind is heard. -/
theorem silent_heard (notes : List Output.Note) :
    Event.silent (notes.filterMap heardEvent?) = [] := by
  induction notes with
  | nil => rfl
  | cons note rest ih => cases note <;> exact ih

/-- A chunk that is printed changes nothing but the output, and is heard if anything happens. -/
theorem print_eq (h : Host) (chunk : String) : ∃ output heard, Event.silent heard = [] ∧
    h.print chunk = { h with output }.emitAll heard :=
  ⟨_, _, silent_heard _, rfl⟩

theorem print_sent (h : Host) (chunk : String) : Sent h [] (h.print chunk) := by
  obtain ⟨output, heard, hsilent, hprint⟩ := h.print_eq chunk
  have houtput : Sent h [] { h with output } := .of_eq rfl rfl rfl rfl
  have hsent := houtput.trans (emitAll_sent { h with output } heard)
  rwa [← Event.commands_silent, hsilent, ← hprint] at hsent

end Host

end LedBoard
