import LedBoard.Binary64.Shortest
import LedBoard.Text.Decimal
import LedBoard.Text.Quoted

/-!
# Problems of a JSON text

A text is read from left to right, and the first problem met is reported. It is of one of three
categories: the text breaks the rules of JSON (`syntax`), it ends too early (`eof`), or it is
JSON of the wrong shape (`data`).
-/

namespace LedBoard.Json

/-- What was found where something else was wanted. -/
inductive Found
  | null
  | bool (b : Bool)
  | integer (n : Int)
  | float (x : Binary64.Finite)
  | string (s : String)
  | sequence
  | map
  deriving DecidableEq, Repr

/-- A number is written out in full if its point stands behind one of the first sixteen digits,
    or in front of them with at most four zeros between; it always shows a point then. Of two
    equally near decimals the even one is taken. -/
def numberStyle : Binary64.Style where
  tie := .even
  inFull whole := -5 < whole && whole ≤ 16
  pointed := true

/-- What was found, in words. -/
def Found.text : Found → String
  | .null => "null"
  | .bool b => "boolean \x60" ++ Text.truth b ++ "\x60"
  | .integer n => "integer \x60" ++ Text.decimal n ++ "\x60"
  | .float x => "floating point \x60" ++ x.written numberStyle ++ "\x60"
  | .string s => "string " ++ Text.quoted s
  | .sequence => "sequence"
  | .map => "map"

/-- What can be unfinished where a text ends. -/
inductive Unfinished
  | value
  | list
  | object
  | string
  deriving DecidableEq, Repr

/-- What is wrong with a text. -/
inductive Problem
  /-- No value starts here. -/
  | expectedValue
  /-- A word that starts like `true`, `false` or `null` is another one. -/
  | expectedWord
  | invalidNumber
  /-- The number is beyond the greatest finite one. -/
  | numberOutOfRange
  | keyNotString
  | expectedColon
  | expectedCommaOrBrace
  | expectedCommaOrBracket
  | trailingComma
  | trailingCharacters
  | invalidEscape
  /-- A control character stands in a string as it is. -/
  | controlCharacter
  /-- The first half of a pair of escapes is not followed by an escape. -/
  | unpairedEscape
  /-- A half of a pair of escapes stands where it has no partner. -/
  | loneSurrogate
  /-- Arrays and objects stand too deep within each other. -/
  | tooDeep
  /-- The text ends within this. -/
  | ended (within : Unfinished)
  | wrongType (found : Found) (expected : String)
  | wrongValue (found : Found) (expected : String)
  | unknownVariant (name : String) (known : List String)
  | duplicateField (name : String)
  deriving DecidableEq, Repr

/-- The categories of problems. -/
inductive Category
  | syntaxError
  | eof
  | data
  deriving DecidableEq, Repr

/-- The name of the category. -/
def Category.name : Category → String
  | .syntaxError => "syntax"
  | .eof => "eof"
  | .data => "data"

namespace Problem

/-- The category of a problem. -/
def category : Problem → Category
  | .ended _ => .eof
  | .wrongType .. | .wrongValue .. | .unknownVariant .. | .duplicateField _ => .data
  | _ => .syntaxError

/-- A name as it is quoted in a problem. -/
def ticked (name : String) : String := "\x60" ++ name ++ "\x60"

/-- The problem in words. -/
def message : Problem → String
  | .expectedValue => "expected value"
  | .expectedWord => "expected ident"
  | .invalidNumber => "invalid number"
  | .numberOutOfRange => "number out of range"
  | .keyNotString => "key must be a string"
  | .expectedColon => "expected " ++ ticked ":"
  | .expectedCommaOrBrace => "expected " ++ ticked "," ++ " or " ++ ticked "\x7d"
  | .expectedCommaOrBracket => "expected " ++ ticked "," ++ " or " ++ ticked "]"
  | .trailingComma => "trailing comma"
  | .trailingCharacters => "trailing characters"
  | .invalidEscape => "invalid escape"
  | .controlCharacter =>
    "control character (\\u0000-\\u001F) found while parsing a string"
  | .unpairedEscape => "unexpected end of hex escape"
  | .loneSurrogate => "lone leading surrogate in hex escape"
  | .tooDeep => "recursion limit exceeded"
  | .ended .value => "EOF while parsing a value"
  | .ended .list => "EOF while parsing a list"
  | .ended .object => "EOF while parsing an object"
  | .ended .string => "EOF while parsing a string"
  | .wrongType found expected => "invalid type: " ++ found.text ++ ", expected " ++ expected
  | .wrongValue found expected => "invalid value: " ++ found.text ++ ", expected " ++ expected
  | .unknownVariant name known =>
    "unknown variant " ++ ticked name ++ ", expected " ++
      Text.joined " or " (known.map ticked)
  | .duplicateField name => "duplicate field " ++ ticked name

end Problem

end LedBoard.Json
