import LedBoard.Config
import LedBoard.Error
import LedBoard.Host.Event
import LedBoard.Output
import LedBoard.Sensors

/-!
# The host

The host is what surrounds a script: the board with its sensors and its display, the console,
and the output that the session collects. Whatever it does is put down in its trace.

The board checks the dots that scripts set: nothing is sent to the display unless the column and
the row are below five and the brightness is at most nine (`Host.setPixel`). Scrolling draws
within these bounds of itself (`Host.scroll`).

* `Host.emit`: an event happens; the display follows the commands;
* `Host.print`: a chunk is appended to the output, and the listener hears it.
-/

namespace LedBoard

/-- What surrounds a script. -/
structure Host where
  /-- Where the sound level comes from. -/
  microphone : Microphone := .live
  /-- How long a frame of scrolling text is held. -/
  frameMs : UInt64 := defaultFrameMs
  sensors : Sensors := {}
  leds : Leds := .blank
  /-- There is a console that can be cleared. -/
  hasConsole : Bool := true
  output : Output.Buffer := {}
  /-- What has happened, in order. -/
  trace : Array Event := #[]
  deriving Inhabited

namespace Host

/-- The host with the settings of a session. -/
def configured (h : Host) (c : Config) : Host :=
  { h with microphone := c.microphone, frameMs := c.scrollFrameMs }

/-- The host with a listener that only hears. -/
def listening (h : Host) : Host := { h with output := h.output.listen (.quiet "host") }

/-- An event happens. -/
def emit (h : Host) (e : Event) : Host :=
  { h with leds := Event.onLeds h.leds e, trace := h.trace.push e }

/-- Events happen in order. -/
def emitAll (h : Host) (events : List Event) : Host := events.foldl emit h

/-! ## The board -/

/-- The number is a column and a row of the display. -/
def inDisplay (n : Int64) : Bool := 0 ≤ n && n < 5

/-- Sets a dot, if there is such a dot and such a brightness. -/
def setPixel (h : Host) (x y brightness : Int64) : Except ScriptError Host :=
  if !inDisplay x || !inDisplay y then
    .error (.value ("pixel coordinates (" ++ Text.decimal x.toInt ++ ", " ++
      Text.decimal y.toInt ++ ") out of range"))
  else if !(0 ≤ brightness && brightness ≤ 9) then
    .error (.value ("brightness " ++ Text.decimal brightness.toInt ++ " out of range 0-9"))
  else
    .ok (h.emit (.command (.setPixel (UInt8.ofNat x.toNatClampNeg) (UInt8.ofNat y.toNatClampNeg)
      (UInt8.ofNat brightness.toNatClampNeg))))

/-- Blanks the display. -/
def clearDisplay (h : Host) : Host := h.emit (.command .clearDisplay)

/-- Scrolls a text through the display, and tells the number of frames drawn. -/
def scroll (h : Host) (text : String) : Nat × Host :=
  ((Scroll.frames text.toList h.frameMs).length,
    h.emitAll ((Scroll.film text.toList h.frameMs).map Stroke.event))

/-- Answers a question about the board. -/
def read (h : Host) (key : Key) : Int32 × Host :=
  let (n, sensors) := h.sensors.read key
  (n, { h with sensors })

/-- The sound level. -/
def soundLevel (h : Host) : Int32 × Host :=
  match h.microphone with
  | .live => h.read .micVol
  | .stub => (0, h)

/-- Waits. -/
def sleep (h : Host) (ms : UInt64) : Host := h.emit (.pause ms)

/-- Takes a new snapshot of the board from a JSON text. -/
def updateSensors (h : Host) (text : String) : Except Json.Problem Host :=
  (h.sensors.updateJson text).map fun sensors => { h with sensors }

/-! ## Console and output -/

/-- Clears the console, if there is one. -/
def clearConsole (h : Host) : Host := if h.hasConsole then h.emit .consoleCleared else h

/-- What of a note of a listener is an event. -/
def heardEvent? : Output.Note → Option Event
  | .heard _ chunk => some (.heard chunk)
  | .took _ => none

/-- Appends a chunk to the output. -/
def print (chunk : String) (h : Host) : Host :=
  let (output, notes) := h.output.append chunk
  emitAll { h with output } (notes.filterMap heardEvent?)

/-- Takes the output. -/
def takeOutput (h : Host) : String × Host :=
  let (text, output) := h.output.take
  (text, { h with output })

/-- Drops the output. -/
def clearOutput (h : Host) : Host := { h with output := h.output.clear }

/-! ## Sums -/

/-- The events that have happened. -/
def events (h : Host) : List Event := h.trace.toList

/-- How many dots have been set. -/
def pixelsSet (h : Host) : Nat := (Event.commands h.events).countP Command.isSetPixel

/-- How often the display has been blanked. -/
def displayClears (h : Host) : Nat := (Event.commands h.events).countP (! ·.isSetPixel)

/-- How long has been waited. -/
def elapsed (h : Host) : UInt64 := (Event.pauses h.events).foldl (· + ·) 0

end Host

end LedBoard
