import LedBoard.Json.Reader
import LedBoard.Json.Writer

/-!
# Session settings

The settings of a session: where the sound level comes from, how long a frame of scrolling text
is held, and whether scripts may reach the operating system. They are read from JSON, where
every field has a default, and written back as JSON in a fixed order.

* `Config.ofJson?`: reads settings;
* `Config.toJson`: writes them.
-/

namespace LedBoard

/-- Where the sound level comes from. -/
inductive Microphone
  /-- From the readings of the board. -/
  | live
  /-- It is always zero. -/
  | stub
  deriving DecidableEq, Repr

namespace Microphone

/-- The name of the mode in settings. -/
def name : Microphone → String
  | .live => "live"
  | .stub => "stub"

/-- The names of the modes. -/
def names : List String := ["live", "stub"]

/-- The mode of a name. -/
def ofName (name : String) : Microphone := if name = "stub" then .stub else .live

end Microphone

/-- How long a frame of scrolling text is held, in milliseconds, unless settings say otherwise. -/
def defaultFrameMs : UInt64 := 200

/-- The settings of a session. -/
structure Config where
  microphone : Microphone := .live
  scrollFrameMs : UInt64 := defaultFrameMs
  enableOsAccess : Bool := true
  deriving DecidableEq, Repr, Inhabited

namespace Config

/-- The fields of settings, in their order. -/
def fields : List (Json.Field Config) :=
  [.of "microphone" (Json.readVariant Microphone.names)
      fun name c => { c with microphone := .ofName name },
   .of "scroll_frame_ms" Json.readUInt64 fun ms c => { c with scrollFrameMs := ms },
   .of "enable_os_access" Json.readBool fun b c => { c with enableOsAccess := b }]

/-- Reads settings from a JSON text. -/
def ofJson? (text : String) : Except Json.Problem Config :=
  Json.readAll (Json.readRecord "struct SessionConfig" fields {}) text

/-- The settings as JSON. -/
def toJson (c : Config) : String :=
  Json.writeObject [("microphone", Json.writeString c.microphone.name),
    ("scroll_frame_ms", Text.decimalNat c.scrollFrameMs.toNat),
    ("enable_os_access", Text.truth c.enableOsAccess)]

/-- The problem of settings in words. -/
def problemText (p : Json.Problem) : String := "invalid configuration: " ++ p.message

end Config

end LedBoard
