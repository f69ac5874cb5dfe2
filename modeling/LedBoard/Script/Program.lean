import LedBoard.Script.Parser

/-!
# Programs

A program is a sequence of statements, and it is read whole before any of it runs. The first
name of a statement decides what it is: a keyword begins an import or a raise, and another name
in front of an equals sign an assignment; everything else is an expression.

* `expressionOf?`: the tree of a source that is one expression, white space around it apart;
* `programOf?`: the trees of a source that is a program.
-/

namespace LedBoard.Script

/-- The rest of an import: the name of the module. -/
def parseImport (ts : List Token) : Parsed Stmt ts :=
  match ts with
  | .name m :: rest => some (.importModule m, ⟨rest, Nat.lt_succ_self _⟩)
  | _ => none

/-- The rest of an import of everything: the name of the module, `import` and a star. -/
def parseImportAll (ts : List Token) : Parsed Stmt ts :=
  match ts with
  | .name m :: .name kw :: .symbol .star :: rest =>
    if kw = "import" then some (.importAll m, ⟨rest, by simp only [List.length_cons]; omega⟩)
    else none
  | _ => none

/-- A statement made of an expression. -/
def parseAs (make : Expr → Stmt) (ts : List Token) : Parsed Stmt ts :=
  (parseExpression ts).map fun (e, r) => (make e, r)

/-- A rule behind a token. -/
def Parsed.behind {α : Type} {ts : List Token} (t : Token) (p : Parsed α ts) :
    Parsed α (t :: ts) :=
  Option.map (fun (a, ⟨r, h⟩) => (a, ⟨r, by simp only [List.length_cons]; omega⟩)) p

/-- Reads a statement. -/
def parseStatement (ts : List Token) : Parsed Stmt ts :=
  match ts with
  | .name n :: .symbol .equals :: rest =>
    if isKeyword n then none else ((parseAs (.assign n) rest).behind _).behind _
  | .name n :: rest =>
    if n = "import" then (parseImport rest).behind _
    else if n = "from" then (parseImportAll rest).behind _
    else if n = "raise" then (parseAs .raise rest).behind _
    else parseAs .expr (.name n :: rest)
  | ts => parseAs .expr ts

/-- The tokens from the first one on that does not end a statement. -/
def skipNewlines (ts : List Token) : List Token := ts.dropWhile (· == .newline)

/-- Leaving out newlines makes nothing longer, so a program can be read statement by statement. -/
theorem length_skipNewlines (ts : List Token) : (skipNewlines ts).length ≤ ts.length :=
  (List.dropWhile_sublist _).length_le

/-- Reads the statements of a whole program. -/
def parseProgram (ts : List Token) : Option (List Stmt) :=
  match hts : skipNewlines ts with
  | [] => some []
  | t :: rest =>
    match parseStatement (t :: rest) with
    | none => none
    | some (s, ⟨[], _⟩) => some [s]
    | some (s, ⟨.newline :: r, h⟩) =>
      have : r.length < ts.length := by
        have := length_skipNewlines ts
        rw [hts] at this
        simp only [List.length_cons] at h this
        omega
      (parseProgram r).map (s :: ·)
    | _ => none
  termination_by ts.length

/-- Reads tokens that are one expression and nothing else. -/
def parseWholeExpression (ts : List Token) : Option Expr :=
  match parseExpression ts with
  | some (e, ⟨[], _⟩) => some e
  | _ => none

/-- The tree of a source that is one expression. -/
def expressionOf? (code : String) : Option Expr :=
  tokenize (Text.trimChars code.toList) >>= parseWholeExpression

/-- The trees of a source that is a program. -/
def programOf? (code : String) : Option (List Stmt) :=
  tokenize code.toList >>= parseProgram

end LedBoard.Script
