import LedBoard.Embedded.Library
import LedBoard.Text.Decimal

/-!
# Calls on the action machine

The machine logs the calls that are made on it: those that create and end contexts, that look up
and bind names, that make objects, run code and raise exceptions. Calls that only ask about an
object, or hold on to it, are not logged.
-/

namespace LedBoard.ActionMachine

/-- A call on a context that is logged. -/
inductive Call
  | createContext (config : Embedded.ContextConfig)
  | destroyContext (references : Int)
  | getGlobal (name : String)
  | setGlobal (space name : String)
  | newFunction (name : String)
  | registerModule (name : String)
  | importModule (name : String)
  | execute (sourceName : String)
  | executeExpression (sourceName : String)
  | compileExpression (sourceName : String)
  /-- The class is that of the pending exception. -/
  | clearException (className : Option String)
  | raiseArgumentCount (given expected : Int32)
  | raiseArgumentType (index : Int32) (expected : String)
  | raiseClass (className message : String)
  /-- An object was made, which is written as JSON. -/
  | new (json : String)

/-- The settings of a new context in words. -/
def configText (c : Embedded.ContextConfig) : String :=
  "os_access=" ++ Text.truth c.osAccess ++ " print=" ++ Text.truth c.print.isSome ++ " limits=" ++
    Text.joined "," ([c.maxRecursion, c.maxCollectionSize, c.collectorFactor,
      c.argumentCount].map Text.decimalNat)

/-- The call in words. -/
def Call.text : Call → String
  | .createContext config => "CreateContext " ++ configText config
  | .destroyContext references => "DestroyContext refs=" ++ Text.decimal references
  | .getGlobal name => "GetGlobal " ++ name
  | .setGlobal space name => "SetGlobal " ++ space ++ ":" ++ name
  | .newFunction name => "NewFunction " ++ name
  | .registerModule name => "RegisterModule " ++ name
  | .importModule name => "ImportModule " ++ name ++ " alias=" ++ Text.truth false
  | .execute sourceName => "Execute " ++ sourceName
  | .executeExpression sourceName => "ExecuteExpression " ++ sourceName
  | .compileExpression sourceName => "CompileExpression " ++ sourceName
  | .clearException className => "ClearException " ++ className.getD ""
  | .raiseArgumentCount given expected =>
    "RaiseArgumentCountError " ++ Text.decimal given.toInt ++ " " ++ Text.decimal expected.toInt
  | .raiseArgumentType index expected =>
    "RaiseArgumentTypeError " ++ Text.decimal index.toInt ++ " " ++ expected
  | .raiseClass className message => "RaiseExceptionClass " ++ className ++ " " ++ message
  | .new json => "New " ++ json

end LedBoard.ActionMachine
