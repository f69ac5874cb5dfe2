import LedBoard.Host.Basic

/-!
# The trace of a host

What a host does is a sequence of events, so what came of it is read off the sequence: the
display follows the commands among the events, and the trace grows by all of them.

* `emitAll_events`, `emitAll_leds`: the trace and the display after a sequence of events;
* `screens_split`: the display at a pause is the one that the host has when the pause happens.
-/

namespace LedBoard

namespace Event

/-- The displays at later pauses are those of a board that starts as the earlier events leave it. -/
@[simp]
theorem screens_append (leds : Leds) (a b : List Event) :
    screens leds (a ++ b) = screens leds a ++ screens (a.foldl onLeds leds) b := by
  induction a generalizing leds with
  | nil => rfl
  | cons event a ih => cases event <;> simp only [List.cons_append, screens, List.foldl_cons, ih,
      onLeds]

@[simp]
theorem pauses_append (a b : List Event) : pauses (a ++ b) = pauses a ++ pauses b :=
  List.filterMap_append ..

/-- There is one display for every pause. -/
theorem length_screens (leds : Leds) (events : List Event) :
    (screens leds events).length = (pauses events).length := by
  induction events generalizing leds with
  | nil => rfl
  | cons event events ih =>
    cases event <;>
      simp only [screens, pauses, List.filterMap_cons, pause?, List.length_cons, ih]

end Event

namespace Host

@[simp]
theorem emitAll_events (h : Host) (events : List Event) :
    (h.emitAll events).events = h.events ++ events := by
  induction events generalizing h with
  | nil => simp [emitAll]
  | cons event rest ih =>
    rw [emitAll, List.foldl_cons, ← emitAll, ih]
    simp [emit, Host.events]

/-- The display after some events is that of a board on which they have happened. -/
@[simp]
theorem emitAll_leds (h : Host) (events : List Event) :
    (h.emitAll events).leds = events.foldl Event.onLeds h.leds := by
  induction events generalizing h with
  | nil => rfl
  | cons event rest ih => rw [emitAll, List.foldl_cons, ← emitAll, ih]; rfl

/-- Events of the board leave the output alone. -/
@[simp]
theorem emitAll_output (h : Host) (events : List Event) :
    (h.emitAll events).output = h.output := by
  induction events generalizing h with
  | nil => rfl
  | cons event rest ih => rw [emitAll, List.foldl_cons, ← emitAll, ih]; rfl

/-- Events of the board leave the readings of the sensors alone. -/
@[simp]
theorem emitAll_sensors (h : Host) (events : List Event) :
    (h.emitAll events).sensors = h.sensors := by
  induction events generalizing h with
  | nil => rfl
  | cons event rest ih => rw [emitAll, List.foldl_cons, ← emitAll, ih]; rfl

/-- The display at a pause, counted from zero, is the one of the host when the pause happens. -/
theorem screens_split (h : Host) {events before after : List Event} {ms : UInt64}
    (he : events = before ++ .pause ms :: after) :
    (Event.screens h.leds events)[(Event.pauses before).length]? =
      some (h.emitAll before).leds := by
  rw [he, Event.screens_append, List.getElem?_append_right (Nat.le_of_eq (Event.length_screens ..)),
    Event.length_screens, Nat.sub_self, emitAll_leds]
  rfl

end Host

end LedBoard
