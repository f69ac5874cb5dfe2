/-!
# The trees of scripts

What a script means is read off its trees: expressions, and the statements that programs are
sequences of. Parentheses leave no trace in a tree.
-/

namespace LedBoard.Script

/-- The operators between two operands. -/
inductive Operator
  | add
  | sub
  | mul
  | div
  deriving DecidableEq, Repr

/-- The sign of an operator. -/
def Operator.sign : Operator → String
  | .add => "+"
  | .sub => "-"
  | .mul => "*"
  | .div => "/"

/-- An expression. -/
inductive Expr
  | int (n : Int64)
  | str (s : String)
  | name (n : String)
  | neg (e : Expr)
  | binary (op : Operator) (left right : Expr)
  /-- The attribute of this name of what an expression stands for. -/
  | attr (e : Expr) (name : String)
  | call (callee : Expr) (args : List Expr)
  deriving Repr

/-- A statement. -/
inductive Stmt
  | expr (e : Expr)
  | assign (target : String) (e : Expr)
  | importModule (name : String)
  /-- Binds everything that a module has. -/
  | importAll (name : String)
  | raise (e : Expr)
  deriving Repr

end LedBoard.Script
