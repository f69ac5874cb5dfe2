import LedBoard.Text.Decimal
import LedBoard.Text.Utf8
import LedBoard.Time.Moment

/-!
# The system

The command line reads files, opens a log and the history of the console, looks up variables of
its environment, and looks at a clock. What it needs of the system for that is a `System`, which
answers or names the trouble.

* `System.readText`: reads a file that holds a text.
-/

namespace LedBoard.CommandLine

/-- Why a file cannot be used. -/
inductive Trouble
  | notFound
  /-- Something else is there already. -/
  | exists
  | notFolder
  | isFolder
  | nameTooLong
  /-- A NUL character stands in the path. -/
  | nulInPath
  /-- The octets are not a text. -/
  | notText
  /-- Anything else, in the words of the system. -/
  | other (text : String)
  deriving DecidableEq, Repr

/-- An error of the system in words, after which its number stands. -/
def numbered (text : String) (number : Nat) : String :=
  text ++ " (os error " ++ Text.decimalNat number ++ ")"

/-- The trouble in words. -/
def Trouble.text : Trouble → String
  | .notFound => numbered "No such file or directory" 2
  | .exists => numbered "File exists" 17
  | .notFolder => numbered "Not a directory" 20
  | .isFolder => numbered "Is a directory" 21
  | .nameTooLong => numbered "File name too long" 36
  | .nulInPath => "file name contained an unexpected NUL byte"
  | .notText => "stream did not contain valid UTF-8"
  | .other text => text

/-- What is needed of a system whose files are in a state of type `δ`. -/
structure System (δ : Type) where
  read : δ → (path : String) → Except Trouble Text.Octets
  /-- Opens a file to write a log at its end; what is missing of the path is made. -/
  openLog : δ → (path : String) → Except Trouble δ
  /-- Opens the file where the lines typed at the console are kept. -/
  openHistory : δ → Except Trouble Unit
  /-- The value of a variable of the environment. -/
  lookup : (name : String) → Option String
  /-- What the clock shows. -/
  now : Time.Moment

/-- Reads a file that holds a text. -/
def System.readText {δ : Type} (s : System δ) (d : δ) (path : String) :
    Except Trouble String := do
  match Text.decode? (← s.read d path) with
  | some text => .ok text
  | none => .error .notText

end LedBoard.CommandLine
