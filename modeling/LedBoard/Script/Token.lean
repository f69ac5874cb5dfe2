import LedBoard.Text.Blank
import LedBoard.Text.Letter

/-!
# The tokens of a script

A script is first cut into tokens: integers, texts, names, symbols, and the ends of statements,
which are written as the end of a line or as a semicolon. White space, Unicode's, stands between
tokens and means nothing; a comment runs from `#` to the end of its line.

* an integer is a run of ASCII digits whose value fits into 64 bits with a sign;
* a text stands between two quotes of the same kind, single or double, on one line; nothing in
  it is an escape;
* a name is a letter or an underscore followed by letters, numbers and underscores.

The scan takes the longest lexeme it can from the left (`scanLexeme`), and fails where none
starts. `tokenize` yields the tokens of a whole text.
-/

namespace LedBoard.Script

/-- The symbols. -/
inductive Symbol
  | plus
  | minus
  | star
  | slash
  | equals
  | parenOpen
  | parenClose
  | comma
  | dot
  deriving DecidableEq, Repr

namespace Symbol

/-- The character of a symbol. -/
def char : Symbol → Char
  | .plus => '+'
  | .minus => '-'
  | .star => '*'
  | .slash => '/'
  | .equals => '='
  | .parenOpen => '('
  | .parenClose => ')'
  | .comma => ','
  | .dot => '.'

/-- All symbols. -/
def all : List Symbol :=
  [.plus, .minus, .star, .slash, .equals, .parenOpen, .parenClose, .comma, .dot]

/-- The symbol of a character. -/
def ofChar? (c : Char) : Option Symbol := all.find? (·.char = c)

end Symbol

/-- A token. -/
inductive Token
  | int (n : Int64)
  | str (s : String)
  | name (n : String)
  | symbol (s : Symbol)
  /-- The end of a statement. -/
  | newline
  deriving DecidableEq, Repr

/-! ## Lexemes -/

/-- The value of a run of digits. -/
def digitsValue (digits : List Char) : Nat :=
  digits.foldl (fun n c => n * 10 + (c.toNat - '0'.toNat)) 0

/-- The integer of a run of digits, if it fits into 64 bits with a sign. -/
def integer? (digits : List Char) : Option Int64 :=
  let n := digitsValue digits
  if n < Nat.pow 2 63 then some (Int64.ofNat n) else none

/-- A name can start with the character. -/
def isNameStart (c : Char) : Bool := Text.isLetter c || c == '_'

/-- A name can go on with the character. -/
def isNamePart (c : Char) : Bool := Text.isLetterOrNumber c || c == '_'

/-- The character is one of the two quotes. -/
def isQuote (c : Char) : Bool := c == '"' || c == '\''

/-- The character stands within a text that the quote `q` ends. -/
def inQuotes (q c : Char) : Bool := c != q && c != '\n'

/-- The characters left over behind a lexeme whose first character was taken. -/
abbrev Behind (cs : List Char) := { r : List Char // r.length ≤ cs.length }

/-- What is left of `cs` behind its longest run of a kind. -/
def behindRun (kind : Char → Bool) (cs : List Char) : Behind cs :=
  ⟨cs.dropWhile kind, (List.dropWhile_sublist _).length_le⟩

/-- Reads the lexeme that starts with `c`: a token, or white space or a comment, which is none;
    and what is left behind it. Fails if no lexeme starts so. -/
def scanLexeme (c : Char) (cs : List Char) : Option (Option Token × Behind cs) :=
  if c = '\n' ∨ c = ';' then some (some .newline, ⟨cs, Nat.le_refl _⟩)
  else if Text.isBlank c then some (none, ⟨cs, Nat.le_refl _⟩)
  else if c = '#' then some (none, behindRun (· != '\n') cs)
  else if c.isDigit then
    match integer? (c :: cs.takeWhile Char.isDigit) with
    | some n => some (some (.int n), behindRun Char.isDigit cs)
    | none => none
  else if isQuote c then
    match behindRun (inQuotes c) cs with
    | ⟨[], _⟩ => none
    | ⟨q :: r, h⟩ =>
      if q = c then
        some (some (.str (String.ofList (cs.takeWhile (inQuotes c)))),
          ⟨r, by simp only [List.length_cons] at h; omega⟩)
      else none
  else if isNameStart c then
    some (some (.name (String.ofList (c :: cs.takeWhile isNamePart))), behindRun isNamePart cs)
  else
    match Symbol.ofChar? c with
    | some s => some (some (.symbol s), ⟨cs, Nat.le_refl _⟩)
    | none => none

/-- The tokens of a text. -/
def tokenize (s : List Char) : Option (List Token) :=
  match s with
  | [] => some []
  | c :: cs =>
    match scanLexeme c cs with
    | none => none
    | some (token, ⟨r, _⟩) =>
      match tokenize r with
      | none => none
      | some tokens => some (token.toList ++ tokens)
  termination_by s.length
  decreasing_by simp only [List.length_cons]; omega

end LedBoard.Script
