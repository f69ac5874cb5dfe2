import LedBoard.CommandLine.Options
import LedBoard.Devices
import LedBoard.Terminal.Paint

/-!
# Help

Help says what a command does, how it is called, and what its arguments and options are; these
stand in columns, as wide as the longest of them needs. What is to be typed as it stands is bold
on a terminal with colors, and so are the titles, which are underlined too.

* `Topic.text`: help on a topic.
-/

namespace LedBoard.CommandLine

open Terminal (Palette)

/-- The name of the program. -/
def programName : String := "wingbit"

/-- The name and the version of the program. -/
def versionText : String := programName ++ " " ++ Devices.version ++ "\n"

/-- A part of what can be typed. -/
inductive Span
  /-- Is typed as it stands. -/
  | literal (text : String)
  /-- Stands for what is typed. -/
  | pattern (text : String)

namespace Span

/-- The part as it stands. -/
def bare : Span → String
  | .literal text | .pattern text => text

/-- The part on a terminal. -/
def text (p : Palette) : Span → String
  | .literal text => p.bold text
  | .pattern text => text

end Span

/-- The parts one after the other. -/
def spanned (p : Palette) (spans : List Span) : String := Text.joined "" (spans.map (Span.text p))

/-- What can be typed, with its explanation. -/
structure Entry where
  spans : List Span
  explanation : String

/-- The number of characters of what can be typed. -/
def Entry.width (e : Entry) : Nat := (Text.joined "" (e.spans.map Span.bare)).length

/-- A part of help: a title, and what it lists. -/
structure Listing where
  title : String
  entries : List Entry

/-- The listing in columns. -/
def Listing.text (p : Palette) (l : Listing) : String :=
  let width := (l.entries.map Entry.width).foldl max 0
  p.title (l.title ++ ":") ++ "\n" ++ Text.joined "" (l.entries.map fun e =>
    "  " ++ spanned p e.spans ++ String.ofList (List.replicate (width - e.width) ' ') ++ "  " ++
      e.explanation ++ "\n")

/-- Help on a command: what it does, how it is called, and its listings. -/
def helpOn (p : Palette) (about : String) (usage : List Span) (listings : List Listing) : String :=
  about ++ "\n\n" ++ p.title "Usage:" ++ " " ++ spanned p usage ++ "\n" ++
    Text.joined "" (listings.map fun l => "\n" ++ l.text p)

/-! ## Entries -/

/-- An option, with its value if it takes one. -/
def optionEntry (short : Option String) (long value explanation : String) : Entry where
  spans := (match short with
    | some s => [.literal s, .pattern ", "]
    | none => [.pattern "    "]) ++ [.literal long, .pattern value]
  explanation

/-- The options of a command: its `own` stand behind the first of those that every command has,
    and its `closing` ones at the end. -/
def optionListing (own closing : List Entry) : Listing where
  title := "Options"
  entries := [optionEntry none "--config" " <CONFIG>" "Session configuration (JSON)"] ++ own ++
    [optionEntry none "--log-level" " <LOG_LEVEL>"
        "Log level: off, error, warn, info, debug, trace [default: off]",
      optionEntry none "--log-file" " <LOG_FILE>"
        "Log file (used when logging is on) [default: wingbit.log]",
      optionEntry (some "-h") "--help" "" "Print help"] ++ closing

/-- What the command `help` does. -/
def aboutHelp : String := "Print this message or the help of the given subcommand(s)"

/-- What the command `run` does. -/
def aboutRun : String := "Run a program against a terminal LED display"

/-- Help on a topic. -/
def Topic.text (p : Palette) : Topic → String
  | .program => helpOn p "Wings scripting for a simulated micro:bit"
      [.literal programName, .pattern " [OPTIONS] [COMMAND]"]
      [⟨"Commands", [⟨[.literal "run"], aboutRun⟩, ⟨[.literal "help"], aboutHelp⟩]⟩,
        optionListing [] [optionEntry (some "-V") "--version" "" "Print version"]]
  | .run => helpOn p aboutRun [.literal (programName ++ " run"), .pattern " [OPTIONS] <FILE>"]
      [⟨"Arguments", [⟨[.pattern "<FILE>"], "Program to run"⟩]⟩,
        optionListing
          [optionEntry (some "-s") "--state" " <STATE>"
            "Board state (JSON) the sensors and buttons read from"] []]
  | .help => helpOn p aboutHelp [.literal (programName ++ " help"), .pattern " [COMMAND]..."]
      [⟨"Arguments", [⟨[.pattern "[COMMAND]..."], "Print help for the subcommand(s)"⟩]⟩]

end LedBoard.CommandLine
