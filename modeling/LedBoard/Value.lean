import LedBoard.Binary64.Shortest
import LedBoard.Text.Decimal

/-!
# Values at the boundary of a script

What a script hands to a native function and gets back: nothing, a truth value, an integer of
64 bits, a floating-point word, a text, or something else of which only the name of its type is
known. A truth value is not an integer here.
-/

namespace LedBoard

/-- A value crossing between a script and the native functions. -/
inductive Value
  | none
  | bool (b : Bool)
  | int (n : Int64)
  | float (x : Binary64)
  | str (s : String)
  /-- Anything else, known by the name of its type only. -/
  | object (typeName : String)
  deriving DecidableEq, Repr, Inhabited

namespace Value

/-- The name of the type of a value. -/
def typeName : Value → String
  | .none => "NoneType"
  | .bool _ => "bool"
  | .int _ => "int"
  | .float _ => "float"
  | .str _ => "str"
  | .object name => name

/-- A value as text: a text stands as it is, a number in full. -/
def display : Value → String
  | .none => "None"
  | .bool true => "True"
  | .bool false => "False"
  | .int n => Text.decimal n.toInt
  | .float x => x.positional
  | .str s => s
  | .object name => "<" ++ name ++ " object>"

/-- Equality of values: values of different kinds differ, and floating-point words are compared
    as the numbers they mean, so a word that means none differs from itself. -/
def same : Value → Value → Bool
  | .float x, .float y => x.same y
  | v, w => v = w

end Value

end LedBoard
