import LedBoard.Script.Token
import LedBoard.Script.Tree

/-!
# Parsing scripts

Trees are read from tokens by recursive descent, one function for each rule of the grammar:

    program     statements, one or more ends of statements between two of them, any number of
                ends before and after
    statement   import NAME | from NAME import * | raise expression | NAME = expression
                | expression
    expression  term { (+ | -) term }
    term        unary { (* | /) unary }
    unary       - unary | postfix
    postfix     primary { . NAME | ( [ expression { , expression } ] ) }
    primary     INTEGER | TEXT | NAME | ( expression )

The names `import`, `from` and `raise` are keywords: a primary expression and the target of an
assignment cannot be one of them, while modules and attributes can.

Every function returns what it read together with the tokens left over, which are fewer than it
was given: the recursion goes down with the number of tokens and, between the functions that
have taken none yet, with the level of the rule. The loops of the rules associate to the left,
so they carry what has been read so far.
-/

namespace LedBoard.Script

/-- What was read off the front of `ts`, and the tokens left over; `none` if the rule does not
    fit. -/
abbrev Parsed (α : Type) (ts : List Token) :=
  Option (α × { r : List Token // r.length < ts.length })

/-- The same for a rule that may take no token. -/
abbrev Continued (α : Type) (ts : List Token) :=
  Option (α × { r : List Token // r.length ≤ ts.length })

/-- The name is a keyword. -/
def isKeyword (n : String) : Bool := n == "import" || n == "from" || n == "raise"

/-- The operator of a sum. -/
def sumOperator? : Token → Option Operator
  | .symbol .plus => some .add
  | .symbol .minus => some .sub
  | _ => none

/-- The operator of a product. -/
def productOperator? : Token → Option Operator
  | .symbol .star => some .mul
  | .symbol .slash => some .div
  | _ => none

mutual

/-- expression: a term, and the terms added to it. -/
def parseExpression (ts : List Token) : Parsed Expr ts :=
  match parseTerm ts with
  | none => none
  | some (left, ⟨r, h⟩) =>
    match parseSums left r with
    | none => none
    | some (e, ⟨r', h'⟩) => some (e, ⟨r', by omega⟩)
  termination_by (ts.length, 5)

/-- The terms added to what has been read. -/
def parseSums (left : Expr) (ts : List Token) : Continued Expr ts :=
  match ts with
  | [] => some (left, ⟨[], by simp⟩)
  | t :: rest =>
    match sumOperator? t with
    | none => some (left, ⟨t :: rest, Nat.le_refl _⟩)
    | some op =>
      match parseTerm rest with
      | none => none
      | some (right, ⟨r, h⟩) =>
        match parseSums (.binary op left right) r with
        | none => none
        | some (e, ⟨r', h'⟩) => some (e, ⟨r', by simp only [List.length_cons]; omega⟩)
  termination_by (ts.length, 0)

/-- term: a unary expression, and those it is multiplied with. -/
def parseTerm (ts : List Token) : Parsed Expr ts :=
  match parseUnary ts with
  | none => none
  | some (left, ⟨r, h⟩) =>
    match parseProducts left r with
    | none => none
    | some (e, ⟨r', h'⟩) => some (e, ⟨r', by omega⟩)
  termination_by (ts.length, 4)

/-- The unary expressions that what has been read is multiplied with. -/
def parseProducts (left : Expr) (ts : List Token) : Continued Expr ts :=
  match ts with
  | [] => some (left, ⟨[], by simp⟩)
  | t :: rest =>
    match productOperator? t with
    | none => some (left, ⟨t :: rest, Nat.le_refl _⟩)
    | some op =>
      match parseUnary rest with
      | none => none
      | some (right, ⟨r, h⟩) =>
        match parseProducts (.binary op left right) r with
        | none => none
        | some (e, ⟨r', h'⟩) => some (e, ⟨r', by simp only [List.length_cons]; omega⟩)
  termination_by (ts.length, 0)

/-- unary: a postfix expression behind any number of minus signs. -/
def parseUnary (ts : List Token) : Parsed Expr ts :=
  match ts with
  | .symbol .minus :: rest =>
    match parseUnary rest with
    | none => none
    | some (e, ⟨r, h⟩) => some (.neg e, ⟨r, by simp only [List.length_cons]; omega⟩)
  | ts => parsePostfix ts
  termination_by (ts.length, 3)

/-- postfix: a primary expression, its attributes and its calls. -/
def parsePostfix (ts : List Token) : Parsed Expr ts :=
  match parsePrimary ts with
  | none => none
  | some (e, ⟨r, h⟩) =>
    match parseSuffixes e r with
    | none => none
    | some (e', ⟨r', h'⟩) => some (e', ⟨r', by omega⟩)
  termination_by (ts.length, 2)

/-- The attributes and calls of what has been read. -/
def parseSuffixes (e : Expr) (ts : List Token) : Continued Expr ts :=
  match ts with
  | .symbol .dot :: .name n :: rest =>
    match parseSuffixes (.attr e n) rest with
    | none => none
    | some (e', ⟨r, h⟩) => some (e', ⟨r, by simp only [List.length_cons]; omega⟩)
  | .symbol .dot :: _ => none
  | .symbol .parenOpen :: rest =>
    match parseArguments rest with
    | none => none
    | some (args, ⟨r, h⟩) =>
      match parseSuffixes (.call e args) r with
      | none => none
      | some (e', ⟨r', h'⟩) => some (e', ⟨r', by simp only [List.length_cons]; omega⟩)
  | ts => some (e, ⟨ts, Nat.le_refl _⟩)
  termination_by (ts.length, 0)

/-- The arguments of a call, from behind its opening parenthesis through its closing one. -/
def parseArguments (ts : List Token) : Parsed (List Expr) ts :=
  match ts with
  | .symbol .parenClose :: rest => some ([], ⟨rest, by simp⟩)
  | ts => parseSomeArguments ts
  termination_by (ts.length, 7)

/-- One or more arguments of a call, through the closing parenthesis. -/
def parseSomeArguments (ts : List Token) : Parsed (List Expr) ts :=
  match parseExpression ts with
  | some (e, ⟨.symbol .parenClose :: r, h⟩) =>
    some ([e], ⟨r, by simp only [List.length_cons] at h; omega⟩)
  | some (e, ⟨.symbol .comma :: r, h⟩) =>
    match parseSomeArguments r with
    | none => none
    | some (args, ⟨r', h'⟩) =>
      some (e :: args, ⟨r', by simp only [List.length_cons] at h; omega⟩)
  | _ => none
  termination_by (ts.length, 6)
  decreasing_by
    · exact Prod.Lex.right _ (by omega)
    · exact Prod.Lex.left _ _ (by simp only [List.length_cons] at h; omega)

/-- primary: a literal, a name, or an expression in parentheses. -/
def parsePrimary (ts : List Token) : Parsed Expr ts :=
  match ts with
  | .int n :: rest => some (.int n, ⟨rest, by simp⟩)
  | .str s :: rest => some (.str s, ⟨rest, by simp⟩)
  | .name n :: rest => if isKeyword n then none else some (.name n, ⟨rest, by simp⟩)
  | .symbol .parenOpen :: rest =>
    match parseExpression rest with
    | some (e, ⟨.symbol .parenClose :: r, h⟩) =>
      some (e, ⟨r, by simp only [List.length_cons] at h ⊢; omega⟩)
    | _ => none
  | _ => none
  termination_by (ts.length, 1)

end

end LedBoard.Script
