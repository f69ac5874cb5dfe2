import LedBoard.Embedded.Library
import LedBoard.Text.Terminator

/-!
# Crossing into a machine and back

A native function takes and returns values, a machine objects. Going out, every object is a
value: one that is none of the simple kinds counts as an object of the type `object`
(`Library.toValue`). Going in, a text loses its NUL characters, and what is known by the name of
its type only becomes none (`Library.ofValue`).

A refusal becomes an exception of the script (`Library.raise`): the two about arguments have
operations of their own, and any other is raised as an instance of a class that is looked up
where scripts can rebind it. If the class is not found nothing is raised.
-/

namespace LedBoard.Embedded

variable {L O : Type}

namespace Library

variable (lib : Library L O)

/-- The text of a string object; ill-formed parts are replaced. -/
def textOf (o : O) : String := ((lib.getString o).map Text.decodeLossy).getD ""

/-- The value that a native function sees of an object. -/
def toValue (o : O) : Value :=
  if lib.isNone o then .none
  else if lib.isBool o then .bool (lib.getBool o)
  else if lib.isInt o then .int (lib.getInt o)
  else if lib.isNumber o then .float (lib.getFloat o)
  else if lib.isString o then .str (lib.textOf o)
  else .object "object"

/-- The object of a value that a native function returned. -/
def ofValue (a : Address) : Value → StateM L (Option O)
  | .none | .object _ => lib.newNone a
  | .bool b => lib.newBool a b
  | .int n => lib.newInt a n
  | .float x => lib.newFloat a x
  | .str s => lib.newString a (Text.withoutNul s)

/-- Raises an instance of the class that a name stands for, if it stands for one. -/
def raiseNamed (a : Address) (className message : String) : StateM L Unit := do
  match ← lib.getGlobal a className with
  | some c => lib.raiseClass a c (Text.withoutNul message)
  | none => pure ()

/-- Raises the exception that a refusal becomes. -/
def raise (a : Address) : ScriptError → StateM L Unit
  | .argumentCount expected given =>
    lib.raiseArgumentCount a (Int32.ofNat given) (Int32.ofNat expected)
  | .argumentType index expected _ =>
    lib.raiseArgumentType a (Int32.ofNat index) expected.name
  | .value message => lib.raiseNamed a "ValueError" message

end Library

end LedBoard.Embedded
