import LedBoard.Json.Reader

/-!
# Sensors and buttons

The page that shows the board publishes its readings as a `Snapshot`: the acceleration along
three axes, the sound level, and for each of two buttons whether it is down and how often it has
been pressed. A reading is a floating-point number, cut toward zero and clamped to 32 bits.

`Sensors` answers questions (`Key`) about the latest snapshot. Whether a button *was* pressed
means: since this was last asked. So besides the snapshot the press counts of the latest
questions are kept, zero at first, and a new snapshot leaves them alone.

* `Sensors.read`: answers a question;
* `Sensors.updateJson`: takes a new snapshot from JSON, or nothing at all if the text is wrong.
-/

namespace LedBoard

/-- A question about the board. -/
inductive Key
  | accX
  | accY
  | accZ
  | micVol
  | aPressed
  | bPressed
  | aWasPressed
  | bWasPressed
  deriving DecidableEq, Repr

namespace Key

/-- The name of the question. -/
def name : Key → String
  | .accX => "acc_x"
  | .accY => "acc_y"
  | .accZ => "acc_z"
  | .micVol => "mic_vol"
  | .aPressed => "a_pressed"
  | .bPressed => "b_pressed"
  | .aWasPressed => "a_was_pressed"
  | .bWasPressed => "b_was_pressed"

/-- All questions. -/
def all : List Key :=
  [.accX, .accY, .accZ, .micVol, .aPressed, .bPressed, .aWasPressed, .bWasPressed]

/-- The question of a name. -/
def ofName? (name : String) : Option Key := all.find? (·.name = name)

end Key

/-- What the page publishes about the board. -/
structure Snapshot where
  accX : Int32 := 0
  accY : Int32 := 0
  accZ : Int32 := 0
  micVol : Int32 := 0
  aPressed : Bool := false
  bPressed : Bool := false
  aPressCount : UInt32 := 0
  bPressCount : UInt32 := 0
  deriving DecidableEq, Repr, Inhabited

namespace Snapshot

/-- An integer clamped to 32 bits with a sign. -/
def clamp (n : Int) : Int32 := Int32.ofInt (max Int32.minValue.toInt (min n Int32.maxValue.toInt))

/-- The reading of a sensor: the number cut toward zero and clamped. -/
def reading (x : Binary64.Finite) : Int32 := clamp x.truncate

/-- Reads the reading of a sensor from JSON. -/
def readReading : Json.Reader Int32 := fun s =>
  (Json.readFloat s).map fun (x, r) => (reading x, r)

/-- The fields of a snapshot, in their order. -/
def fields : List (Json.Field Snapshot) :=
  [.of "acc_x" readReading fun n s => { s with accX := n },
   .of "acc_y" readReading fun n s => { s with accY := n },
   .of "acc_z" readReading fun n s => { s with accZ := n },
   .of "mic_vol" readReading fun n s => { s with micVol := n },
   .of "a_pressed" Json.readBool fun b s => { s with aPressed := b },
   .of "b_pressed" Json.readBool fun b s => { s with bPressed := b },
   .of "a_press_count" Json.readUInt32 fun n s => { s with aPressCount := n },
   .of "b_press_count" Json.readUInt32 fun n s => { s with bPressCount := n }]

/-- Reads a snapshot from a JSON text. -/
def ofJson? (text : String) : Except Json.Problem Snapshot :=
  Json.readAll (Json.readRecord "struct BoardState" fields {}) text

end Snapshot

/-- The latest snapshot, and the press counts that were last looked at. -/
structure Sensors where
  snapshot : Snapshot := {}
  seenA : UInt32 := 0
  seenB : UInt32 := 0
  deriving DecidableEq, Repr, Inhabited

namespace Sensors

/-- Takes a new snapshot. -/
def update (s : Sensors) (snapshot : Snapshot) : Sensors := { s with snapshot }

/-- Takes a new snapshot from a JSON text. -/
def updateJson (s : Sensors) (text : String) : Except Json.Problem Sensors :=
  (Snapshot.ofJson? text).map s.update

/-- Truth as a number. -/
def flag (b : Bool) : Int32 := if b then 1 else 0

/-- Answers a question; to ask whether a button was pressed is to look at its press count. -/
def read (key : Key) (s : Sensors) : Int32 × Sensors :=
  match key with
  | .accX => (s.snapshot.accX, s)
  | .accY => (s.snapshot.accY, s)
  | .accZ => (s.snapshot.accZ, s)
  | .micVol => (s.snapshot.micVol, s)
  | .aPressed => (flag s.snapshot.aPressed, s)
  | .bPressed => (flag s.snapshot.bPressed, s)
  | .aWasPressed =>
    (flag (s.snapshot.aPressCount != s.seenA), { s with seenA := s.snapshot.aPressCount })
  | .bWasPressed =>
    (flag (s.snapshot.bPressCount != s.seenB), { s with seenB := s.snapshot.bPressCount })

end Sensors

end LedBoard
