import LedBoard.Module
import LedBoard.Script.Exception

/-!
# Objects of scripts

What expressions evaluate to. Besides the values that cross to native functions there are
modules, functions, exceptions and their classes, an object that has no representation, and
objects that came from a native function and of which only the name of the type is known.

* `Object.repr`: the representation that is echoed; a text is put between single quotes as it
  is;
* `Object.toValue`, `Object.ofValue`: the way to native functions and back.
-/

namespace LedBoard.Script

/-- The functions that every script has. -/
inductive Builtin
  | print
  | exit
  deriving DecidableEq, Repr

/-- The name of a builtin function. -/
def Builtin.name : Builtin → String
  | .print => "print"
  | .exit => "exit"

/-- What expressions evaluate to, with native functions on a host `σ`. -/
inductive Object (σ : Type)
  | none
  | int (n : Int64)
  | float (x : Binary64)
  | bool (b : Bool)
  | str (s : String)
  | module (name : String)
  | function (name : String) (f : Native σ)
  | builtin (b : Builtin)
  | exceptionClass (c : ExceptionClass)
  | exception (e : Exception)
  /-- An object of a native function, known by the name of its type only. -/
  | foreign (typeName : String)
  | unprintable

namespace Object

variable {σ : Type}

/-- The name of the type of an object. -/
def typeName : Object σ → String
  | .none => "NoneType"
  | .int _ => "int"
  | .float _ => "float"
  | .bool _ => "bool"
  | .str _ => "str"
  | .module _ => "module"
  | .function .. | .builtin _ => "builtin_function"
  | .exceptionClass _ => "type"
  | .exception e => e.kind.name
  | .foreign name => name
  | .unprintable => "Unprintable"

/-- The representation of an object. -/
def repr : Object σ → Except Exception String
  | .none => .ok "None"
  | .int n => .ok (Text.decimal n.toInt)
  | .float x => .ok x.positional
  | .bool true => .ok "True"
  | .bool false => .ok "False"
  | .str s => .ok ("'" ++ s ++ "'")
  | .module name => .ok ("<module '" ++ name ++ "'>")
  | .function name _ => .ok ("<function " ++ name ++ ">")
  | .builtin b => .ok ("<built-in function " ++ b.name ++ ">")
  | .exceptionClass c => .ok ("<class '" ++ c.name ++ "'>")
  | .exception e => .ok (e.kind.name ++ "('" ++ e.message ++ "')")
  | .foreign name => .ok ("<" ++ name ++ " object>")
  | .unprintable => .error ⟨.runtimeError, "object has no representation"⟩

/-- An object as text: a text itself, or the representation. -/
def text : Object σ → Except Exception String
  | .str s => .ok s
  | other => other.repr

/-- What a native function sees of an object. -/
def toValue : Object σ → Value
  | .none => .none
  | .int n => .int n
  | .float x => .float x
  | .bool b => .bool b
  | .str s => .str s
  | other => .object other.typeName

/-- The object of what a native function returns. -/
def ofValue : Value → Object σ
  | .none => .none
  | .bool b => .bool b
  | .int n => .int n
  | .float x => .float x
  | .str s => .str s
  | .object name => .foreign name

end Object

end LedBoard.Script
