import LedBoard.Embedded.Library
import LedBoard.Json.Tree
import LedBoard.Text.Hex

/-!
# Objects of the action machine

The objects are written as JSON in the code of the machine: the simple ones as themselves, a
floating-point word by its bits, a string that need not be a text by its octets, and any other
object by the name of its type. Functions, classes, exceptions and modules come into being while
code runs.

Classes are known by their names. A few are built in and derive from each other (`lineage`); any
other class stands alone.
-/

namespace LedBoard.ActionMachine

open Embedded (Ticket)

/-- What the machine computes with. -/
inductive Object
  | none
  | bool (b : Bool)
  | int (n : Int64)
  | float (x : Binary64)
  | string (octets : Text.Octets)
  /-- A native function of the embedding. -/
  | function (name : String) (ticket : Ticket)
  /-- The function that represents an object as a string. -/
  | repr
  | exceptionClass (name : String)
  | exception (className : String)
  | module (name : String)
  | other (typeName : String)
  deriving DecidableEq, Repr, Inhabited

/-! ## Classes -/

/-- The classes that are built in and derive from `Exception`. -/
def plainErrors : List String :=
  ["TypeError", "ValueError", "RuntimeError", "NameError", "ImportError", "SyntaxError"]

/-- The classes that are built in. -/
def builtinClasses : List String :=
  ["BaseException", "SystemExit", "ShutdownExit", "Exception"] ++ plainErrors

/-- A class and the classes that it derives from. -/
def lineage (name : String) : List String :=
  if name = "SystemExit" ∨ name = "Exception" then [name, "BaseException"]
  else if name = "ShutdownExit" then [name, "SystemExit", "BaseException"]
  else if plainErrors.contains name then [name, "Exception", "BaseException"]
  else [name]

namespace Object

/-- The object is an exception of the class or of one that derives from it. -/
def isInstance : (object objectClass : Object) → Bool
  | .exception c, .exceptionClass k => (lineage c).contains k
  | _, _ => false

/-! ## Objects as octets -/

/-- Why an object cannot be represented. -/
def noRepresentation : String := "no representation"

/-- A text as a string object. -/
def ofText (s : String) : Object := .string (Text.encode s)

/-- The representation of an object: a string, or none where it stays silent. -/
def representation : Object → Except String Object
  | .none => .ok (ofText "None")
  | .bool b => .ok (ofText (if b then "True" else "False"))
  | .int n => .ok (ofText (Text.decimal n.toInt))
  | .float x => .ok (ofText ("float:" ++ Text.hex 16 x.bits.toNat))
  | .string octets => .ok (.string (Text.encode "'" ++ octets ++ Text.encode "'"))
  | .function name _ => .ok (ofText ("<function " ++ name ++ ">"))
  | .repr => .ok (ofText "<function repr>")
  | .exceptionClass name => .ok (ofText ("<class " ++ name ++ ">"))
  | .exception name => .ok (ofText ("<exception " ++ name ++ ">"))
  | .module name => .ok (ofText ("<module " ++ name ++ ">"))
  | .other name =>
    if name = "unprintable" then .error noRepresentation
    else if name = "mute" then .ok .none
    else .ok (ofText ("<" ++ name ++ " object>"))

/-! ## Objects in code -/

/-- The octets that JSON stands for: a text, or pairs of hexadecimal digits under the key
    `hex`. -/
def octetsOf? : Json.Tree → Option Text.Octets
  | .string s => some (Text.encode s)
  | t =>
    match t.get? "hex" with
    | some (.string digits) => Text.hexOctets? digits.toList
    | _ => Option.none

/-- The object that JSON stands for. -/
def ofTree? : Json.Tree → Option Object
  | .null => some .none
  | .bool b => some (.bool b)
  | .number (.integer n) => some (.int (Int64.ofInt n))
  | .number (.float _) | .array _ => Option.none
  | t =>
    match octetsOf? t, t.get? "float", t.get? "object" with
    | some octets, _, _ => some (.string octets)
    | _, some (.string digits), _ =>
      (Text.hexValue? digits.toList).map fun bits => .float ⟨UInt64.ofNat bits⟩
    | _, _, some (.string typeName) => some (.other typeName)
    | _, _, _ => Option.none

end Object

end LedBoard.ActionMachine
