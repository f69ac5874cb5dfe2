import LedBoard.Host.Event
import LedBoard.Terminal.Paint

/-!
# The screen of a terminal

What happens to the host is shown in the order in which it happens (`play`, `shown`): what is
printed as it is, the display as a drawing whenever the script waits, and what the console says of
its own. The terminal waits where the script waits, after the drawing.

A drawing has a row for every row of the display and a blank line after the last. A dot that is
off is a faint point, a lit one its brightness in bold red.
-/

namespace LedBoard.Terminal

/-- One sign of the display, with a space after a dot. -/
def drawnSign (p : Palette) (c : Char) : String :=
  if c = '\n' then "\n"
  else if c = '.' then p.paint .brightBlack ". "
  else p.strong .red (String.ofList [c, ' '])

/-- The display as it is drawn. -/
def drawing (p : Palette) (leds : Leds) : String :=
  Text.joined "" (leds.render.toList.map (drawnSign p)) ++ "\n"

/-- What clears the screen. -/
def clearScreen : String := "\x1b[2J\x1b[1;1H"

/-- What a terminal is made to do. -/
inductive Step
  /-- A text is shown. -/
  | piece (text : String)
  /-- A text is shown where errors are reported. -/
  | complaint (text : String)
  | wait (ms : UInt64)
  deriving DecidableEq, Repr

/-- The text that is shown. -/
def Step.piece? : Step → Option String
  | .piece text => some text
  | .complaint _ | .wait _ => none

/-- What a terminal is made to do when an event happens while this is the display. Before it
    waits, it draws the display. -/
def steps (p : Palette) (leds : Leds) : Event → List Step
  | .heard text | .told text => [.piece text]
  | .consoleCleared => [.piece clearScreen]
  | .complained text => [.complaint text]
  | .pause ms => [.piece (drawing p leds), .wait ms]
  | _ => []

/-- What a terminal is made to do while events happen, from a given display on. -/
def play (p : Palette) : Leds → List Event → List Step
  | _, [] => []
  | leds, event :: rest => steps p leds event ++ play p (Event.onLeds leds event) rest

/-- What is shown while events happen, from a given display on. -/
def shown (p : Palette) (leds : Leds) (events : List Event) : List String :=
  (play p leds events).filterMap Step.piece?

/-- The events before the console first asks for a line, and then each prompt with the events
    until it asks again. -/
def turns : List Event → List Event × List (String × List Event)
  | [] => ([], [])
  | .asked prompt :: rest =>
    let (answered, later) := turns rest
    ([], (prompt, answered) :: later)
  | event :: rest =>
    let (before, later) := turns rest
    (event :: before, later)

/-- What is said where errors are reported. -/
def complaints (events : List Event) : List String :=
  events.filterMap fun
    | .complained text => some text
    | _ => none

end LedBoard.Terminal
