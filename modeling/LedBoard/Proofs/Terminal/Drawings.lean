import LedBoard.Proofs.Host.Commands
import LedBoard.Terminal.Screen
import Mathlib.Data.List.Infix

/-!
# What a terminal shows event by event

What a terminal is made to do at an event depends on the display then, and so on the commands
among the events before it, and on nothing else. A wait has the drawing of this display right
before it.

* `Event.withPast`: each event with those before it;
* `play_eq`: what is done, event by event.
-/

namespace LedBoard

/-- Each event with those before it, in order. -/
def Event.withPast (events : List Event) : List (List Event × Event) := events.inits.zip events

namespace Terminal

/-- What is done is done event by event, at each the more as the display has become by the
    commands before it. -/
theorem play_eq (p : Palette) (leds : Leds) (events : List Event) :
    play p leds events = (Event.withPast events).flatMap fun x =>
      steps p (leds.replay (Event.commands x.1)) x.2 := by
  induction events generalizing leds with
  | nil => rfl
  | cons event rest ih =>
    have hafter : ∀ past, (Event.onLeds leds event).replay (Event.commands past) =
        leds.replay (Event.commands (event :: past)) := fun past => by
      rw [← Event.foldl_onLeds, ← Event.foldl_onLeds, List.foldl_cons]
    rw [play, ih, Event.withPast, Event.withPast, List.inits_cons, List.zip_cons_cons,
      List.flatMap_cons, List.zip_map_left, List.flatMap_map]
    simp only [Prod.map_fst, Prod.map_snd, id_eq, hafter]
    rfl

end Terminal

end LedBoard
