import LedBoard.Host.Basic
import LedBoard.Module

/-!
# The modules of the board

What scripts can do with the board: six modules of native functions on the host, one for each
device and `microbit`, which waits and brings the devices along. A console session has two
functions of its own besides, which clear the console and tell the version.

Every function first checks the number of its arguments, then their kinds from the first one
on, and only then acts; so a refused call leaves the host as it was.
-/

namespace LedBoard.Devices

/-- The version of the program. -/
def version : String := "0.2.0"

/-! ## Display -/

/-- `set_pixel(x, y, brightness)` sets a dot. -/
def setPixel : Native Host := fun args => do
  checkArity 3 args
  let x ← intArg args 0
  let y ← intArg args 1
  let brightness ← intArg args 2
  match (← get).setPixel x y brightness with
  | .ok h => set h; return .none
  | .error e => throw e

/-- `clear()` blanks the display. -/
def clearDisplay : Native Host := fun args => do
  checkArity 0 args
  modify Host.clearDisplay
  return .none

/-- `scroll(text)` scrolls a text through the display and returns when it has passed. -/
def scroll : Native Host := fun args => do
  checkArity 1 args
  let text ← strArg args 0
  modify fun h => (h.scroll text).2
  return .none

/-- The module of the display. -/
def display : Module Host :=
  ((Module.empty "display").function "set_pixel" setPixel
    |>.function "clear" clearDisplay
    |>.function "scroll" scroll)

/-! ## Sensors -/

/-- A function without arguments that answers a question with a number. -/
def reading (answer : Host → Int32 × Host) : Native Host := fun args => do
  checkArity 0 args
  let (n, h) := answer (← get)
  set h
  return .int (Int64.ofInt n.toInt)

/-- A function without arguments that answers a question with a truth value. -/
def flag (key : Key) : Native Host := fun args => do
  checkArity 0 args
  let (n, h) := (← get).read key
  set h
  return .bool (n != 0)

/-- The module of the microphone. -/
def microphone : Module Host :=
  (Module.empty "microphone").function "sound_level" (reading Host.soundLevel)

/-- The module of the accelerometer. -/
def accelerometer : Module Host :=
  ((Module.empty "accelerometer").function "get_x" (reading (Host.read · .accX))
    |>.function "get_y" (reading (Host.read · .accY))
    |>.function "get_z" (reading (Host.read · .accZ)))

/-- The two buttons. -/
inductive Button
  | a
  | b
  deriving DecidableEq, Repr

namespace Button

/-- The name of the module of a button. -/
def moduleName : Button → String
  | .a => "button_a"
  | .b => "button_b"

/-- The question whether it is down. -/
def pressedKey : Button → Key
  | .a => .aPressed
  | .b => .bPressed

/-- The question whether it was pressed. -/
def wasPressedKey : Button → Key
  | .a => .aWasPressed
  | .b => .bWasPressed

end Button

/-- The module of a button. -/
def button (which : Button) : Module Host :=
  ((Module.empty which.moduleName).function "is_pressed" (flag which.pressedKey)
    |>.function "was_pressed" (flag which.wasPressedKey))

/-! ## The whole board -/

/-- `sleep(ms)` waits; a negative time is none. -/
def sleep : Native Host := fun args => do
  checkArity 1 args
  let ms ← intArg args 0
  modify (Host.sleep · (UInt64.ofNat ms.toNatClampNeg))
  return .none

/-- The modules that `microbit` brings along. -/
def deviceNames : List String :=
  ["display", "accelerometer", "microphone", "button_a", "button_b"]

/-- The module of the whole board. -/
def microbit : Module Host :=
  deviceNames.foldl Module.addImport ((Module.empty "microbit").function "sleep" sleep)

/-- The modules of the board, in the order in which they are registered. -/
def all : List (Module Host) :=
  [display, microphone, accelerometer, button .a, button .b, microbit]

/-! ## Console -/

/-- `clear()` clears the console. -/
def clearConsole : Native Host := fun args => do
  checkArity 0 args
  modify Host.clearConsole
  return .none

/-- `version()` tells the version of the program. -/
def tellVersion : Native Host := fun args => do
  checkArity 0 args
  return .str version

/-- The functions of a console session, in the order in which they are bound. -/
def consoleFunctions : List (String × Native Host) :=
  [("clear", clearConsole), ("version", tellVersion)]

/-- The functions of a console session as a module. -/
def console : Module Host :=
  consoleFunctions.foldl (fun m (name, f) => m.function name f) (.empty "console")

end LedBoard.Devices
