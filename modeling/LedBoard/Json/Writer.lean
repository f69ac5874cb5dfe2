import LedBoard.Text.Decimal

/-!
# Writing JSON

Messages and settings are written compactly, without white space. In a string only the quote,
the backslash and the controls are escaped, a control by its short name where it has one;
every other character stands as it is.
-/

namespace LedBoard.Json

/-- One character of a JSON string. -/
def writtenChar (c : Char) : List Char :=
  if c = '"' then ['\\', '"']
  else if c = '\\' then ['\\', '\\']
  else if c = '\x08' then ['\\', 'b']
  else if c = '\x0c' then ['\\', 'f']
  else if c = '\n' then ['\\', 'n']
  else if c = '\r' then ['\\', 'r']
  else if c = '\t' then ['\\', 't']
  else if c.toNat < 0x20 then '\\' :: 'u' :: (Text.hex 4 c.toNat).toList
  else [c]

/-- A text as a JSON string. -/
def writeString (s : String) : String :=
  String.ofList ('"' :: s.toList.flatMap writtenChar ++ ['"'])

/-- A list of values that are already written. -/
def writeArray (items : List String) : String := "[" ++ Text.joined "," items ++ "]"

/-- An object, from its keys and its values, which are already written. -/
def writeObject (members : List (String × String)) : String :=
  "\x7b" ++ Text.joined "," (members.map fun (k, v) => writeString k ++ ":" ++ v) ++ "\x7d"

end LedBoard.Json
