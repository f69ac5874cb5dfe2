import LedBoard.Script.Program

/-!
# The grammar of scripts

The grammar of scripts, apart from any way of reading them. A *derivation* is a tree whose inner
nodes are rules of the grammar, and whose leaves, from left to right, are tokens: its `tokens`.
A sequence of tokens belongs to the grammar if it is the tokens of a derivation.

A derivation has a tree of the script (`tree`), in which parentheses leave no trace and the
operators of a sum or of a product associate to the left. A derivation knows more than its
tree, so it can be asked whether a sequence of tokens has only one.

The rules, where `{ … }` stands for any number of repetitions:

    program     { NEWLINE } | { NEWLINE } statement { NEWLINE { NEWLINE } statement } { NEWLINE }
    statement   import NAME | from NAME import * | raise expression | NAME = expression
                | expression
    expression  term { (+ | -) term }
    term        unary { (* | /) unary }
    unary       - unary | postfix
    postfix     primary { . NAME | ( [ expression { , expression } ] ) }
    primary     INTEGER | TEXT | NAME | ( expression )

The name of a primary expression and the target of an assignment are no keywords.
-/

namespace LedBoard.Script.Grammar

/-- The signs between the terms of a sum. -/
inductive SumSign
  | plus
  | minus

namespace SumSign

/-- The token of a sign. -/
def token : SumSign → Token
  | .plus => .symbol .plus
  | .minus => .symbol .minus

/-- The operator that a sign stands for. -/
def operator : SumSign → Operator
  | .plus => .add
  | .minus => .sub

end SumSign

/-- The signs between the factors of a product. -/
inductive ProductSign
  | star
  | slash

namespace ProductSign

/-- The token of a sign. -/
def token : ProductSign → Token
  | .star => .symbol .star
  | .slash => .symbol .slash

/-- The operator that a sign stands for. -/
def operator : ProductSign → Operator
  | .star => .mul
  | .slash => .div

end ProductSign

/-! ## Expressions -/

mutual

/-- A derivation of an expression: a term, and the terms joined to it. -/
inductive Expression
  | mk (first : Term) (rest : Terms)

/-- The terms joined to another one, each behind its sign. -/
inductive Terms
  | nil
  | cons (sign : SumSign) (t : Term) (rest : Terms)

/-- A derivation of a term: a unary expression, and the factors joined to it. -/
inductive Term
  | mk (first : Unary) (rest : Factors)

/-- The unary expressions joined to another one, each behind its sign. -/
inductive Factors
  | nil
  | cons (sign : ProductSign) (u : Unary) (rest : Factors)

/-- A derivation of a unary expression. -/
inductive Unary
  | neg (u : Unary)
  | plain (p : Postfix)

/-- A derivation of a postfix expression: a primary expression and its suffixes. -/
inductive Postfix
  | mk (head : Primary) (rest : Suffixes)

/-- The attributes and calls behind an expression. -/
inductive Suffixes
  | nil
  | attr (name : String) (rest : Suffixes)
  | call (args : Arguments) (rest : Suffixes)

/-- The arguments of a call, between its parentheses. -/
inductive Arguments
  | nil
  | cons (first : Expression) (rest : MoreArguments)

/-- The arguments behind another one, each behind a comma. -/
inductive MoreArguments
  | nil
  | cons (e : Expression) (rest : MoreArguments)

/-- A derivation of a primary expression. -/
inductive Primary
  | int (n : Int64)
  | str (s : String)
  | name (n : String) (h : isKeyword n = false)
  | group (e : Expression)

end

mutual

/-- The tokens of an expression. -/
def Expression.tokens : Expression → List Token
  | .mk first rest => first.tokens ++ rest.tokens

/-- The tokens of joined terms. -/
def Terms.tokens : Terms → List Token
  | .nil => []
  | .cons sign t rest => sign.token :: (t.tokens ++ rest.tokens)

/-- The tokens of a term. -/
def Term.tokens : Term → List Token
  | .mk first rest => first.tokens ++ rest.tokens

/-- The tokens of joined factors. -/
def Factors.tokens : Factors → List Token
  | .nil => []
  | .cons sign u rest => sign.token :: (u.tokens ++ rest.tokens)

/-- The tokens of a unary expression. -/
def Unary.tokens : Unary → List Token
  | .neg u => .symbol .minus :: u.tokens
  | .plain p => p.tokens

/-- The tokens of a postfix expression. -/
def Postfix.tokens : Postfix → List Token
  | .mk head rest => head.tokens ++ rest.tokens

/-- The tokens of attributes and calls. -/
def Suffixes.tokens : Suffixes → List Token
  | .nil => []
  | .attr name rest => .symbol .dot :: .name name :: rest.tokens
  | .call args rest =>
    .symbol .parenOpen :: (args.tokens ++ .symbol .parenClose :: rest.tokens)

/-- The tokens of arguments. -/
def Arguments.tokens : Arguments → List Token
  | .nil => []
  | .cons first rest => first.tokens ++ rest.tokens

/-- The tokens of further arguments. -/
def MoreArguments.tokens : MoreArguments → List Token
  | .nil => []
  | .cons e rest => .symbol .comma :: (e.tokens ++ rest.tokens)

/-- The tokens of a primary expression. -/
def Primary.tokens : Primary → List Token
  | .int n => [.int n]
  | .str s => [.str s]
  | .name n _ => [.name n]
  | .group e => .symbol .parenOpen :: (e.tokens ++ [.symbol .parenClose])

end

mutual

/-- The tree of an expression. -/
def Expression.tree : Expression → Expr
  | .mk first rest => rest.tree first.tree

/-- The tree of terms joined to what has the tree `left`. -/
def Terms.tree : Terms → Expr → Expr
  | .nil, left => left
  | .cons sign t rest, left => rest.tree (.binary sign.operator left t.tree)

/-- The tree of a term. -/
def Term.tree : Term → Expr
  | .mk first rest => rest.tree first.tree

/-- The tree of factors joined to what has the tree `left`. -/
def Factors.tree : Factors → Expr → Expr
  | .nil, left => left
  | .cons sign u rest, left => rest.tree (.binary sign.operator left u.tree)

/-- The tree of a unary expression. -/
def Unary.tree : Unary → Expr
  | .neg u => .neg u.tree
  | .plain p => p.tree

/-- The tree of a postfix expression. -/
def Postfix.tree : Postfix → Expr
  | .mk head rest => rest.tree head.tree

/-- The tree of attributes and calls of what has the tree `e`. -/
def Suffixes.tree : Suffixes → Expr → Expr
  | .nil, e => e
  | .attr name rest, e => rest.tree (.attr e name)
  | .call args rest, e => rest.tree (.call e args.trees)

/-- The trees of arguments. -/
def Arguments.trees : Arguments → List Expr
  | .nil => []
  | .cons first rest => first.tree :: rest.trees

/-- The trees of further arguments. -/
def MoreArguments.trees : MoreArguments → List Expr
  | .nil => []
  | .cons e rest => e.tree :: rest.trees

/-- The tree of a primary expression. -/
def Primary.tree : Primary → Expr
  | .int n => .int n
  | .str s => .str s
  | .name n _ => .name n
  | .group e => e.tree

end

/-- One more term behind joined terms. -/
def Terms.snoc : Terms → SumSign → Term → Terms
  | .nil, sign, t => .cons sign t .nil
  | .cons sign' t' rest, sign, t => .cons sign' t' (rest.snoc sign t)

/-- A term that is put behind others is written behind them, after its sign. -/
theorem Terms.tokens_snoc : ∀ (rest : Terms) (sign : SumSign) (t : Term),
    (rest.snoc sign t).tokens = rest.tokens ++ sign.token :: t.tokens
  | .nil, sign, t => by simp [snoc, tokens]
  | .cons sign' t' rest, sign, t => by simp [snoc, tokens, tokens_snoc rest sign t]

/-- A term that is put behind others is joined last, so it is the right operand of the whole. -/
theorem Terms.tree_snoc : ∀ (rest : Terms) (sign : SumSign) (t : Term) (e : Expr),
    (rest.snoc sign t).tree e = .binary sign.operator (rest.tree e) t.tree
  | .nil, _, _, _ => rfl
  | .cons _ _ rest, sign, t, _ => tree_snoc rest sign t _

/-- One more factor behind joined factors. -/
def Factors.snoc : Factors → ProductSign → Unary → Factors
  | .nil, sign, u => .cons sign u .nil
  | .cons sign' u' rest, sign, u => .cons sign' u' (rest.snoc sign u)

/-- A factor that is put behind others is written behind them, after its sign. -/
theorem Factors.tokens_snoc : ∀ (rest : Factors) (sign : ProductSign) (u : Unary),
    (rest.snoc sign u).tokens = rest.tokens ++ sign.token :: u.tokens
  | .nil, sign, u => by simp [snoc, tokens]
  | .cons sign' u' rest, sign, u => by simp [snoc, tokens, tokens_snoc rest sign u]

theorem Factors.tree_snoc : ∀ (rest : Factors) (sign : ProductSign) (u : Unary) (e : Expr),
    (rest.snoc sign u).tree e = .binary sign.operator (rest.tree e) u.tree
  | .nil, _, _, _ => rfl
  | .cons _ _ rest, sign, u, _ => tree_snoc rest sign u _

/-! ## Programs -/

/-- A derivation of a statement. -/
inductive Statement
  | importModule (name : String)
  | importAll (name : String)
  | raise (e : Expression)
  | assign (target : String) (h : isKeyword target = false) (e : Expression)
  | expr (e : Expression)

namespace Statement

/-- The tokens of a statement. -/
def tokens : Statement → List Token
  | .importModule name => [.name "import", .name name]
  | .importAll name => [.name "from", .name name, .name "import", .symbol .star]
  | .raise e => .name "raise" :: e.tokens
  | .assign target _ e => .name target :: .symbol .equals :: e.tokens
  | .expr e => e.tokens

/-- The tree of a statement. -/
def tree : Statement → Stmt
  | .importModule name => .importModule name
  | .importAll name => .importAll name
  | .raise e => .raise e.tree
  | .assign target _ e => .assign target e.tree
  | .expr e => .expr e.tree

end Statement

/-- The ends of `n` lines. -/
def newlines (n : Nat) : List Token := List.replicate n .newline

/-- One or more statements with the ends of lines between and behind them. -/
inductive Statements
  | last (s : Statement) (after : Nat)
  /-- There is one end of a line between two statements, and there may be `gap` more. -/
  | cons (s : Statement) (gap : Nat) (rest : Statements)

namespace Statements

/-- The tokens of statements. -/
def tokens : Statements → List Token
  | .last s after => s.tokens ++ newlines after
  | .cons s gap rest => s.tokens ++ newlines (gap + 1) ++ rest.tokens

/-- The trees of statements. -/
def trees : Statements → List Stmt
  | .last s _ => [s.tree]
  | .cons s _ rest => s.tree :: rest.trees

end Statements

/-- A derivation of a program: without statements, ends of lines alone. -/
inductive Program
  | blank (n : Nat)
  | statements (before : Nat) (rest : Statements)

namespace Program

/-- The tokens of a program. -/
def tokens : Program → List Token
  | .blank n => newlines n
  | .statements before rest => newlines before ++ rest.tokens

/-- The trees of the statements of a program. -/
def trees : Program → List Stmt
  | .blank _ => []
  | .statements _ rest => rest.trees

end Program

end LedBoard.Script.Grammar
