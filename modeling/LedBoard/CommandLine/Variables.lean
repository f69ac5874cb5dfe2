import LedBoard.Text.Letter

/-!
# Variables in paths

A path can refer to variables of the environment: a dollar sign, `ENV`, and between braces the
name of the variable, which starts with a letter, a number or an underscore and goes on with
those or points. A reference to a variable that is set stands for its value. All else stands for
itself, and the value is not looked through for further references.

* `Variables.expand`: the path with the values in place.
-/

namespace LedBoard.CommandLine.Variables

/-- What a reference starts with. -/
def opening : List Char := ['$', 'E', 'N', 'V', '\x7b']

/-- The name of a variable can start with the character. -/
def isStart (c : Char) : Bool := Text.isLetterOrNumber c || c = '_'

/-- The name of a variable can go on with the character. -/
def isPart (c : Char) : Bool := isStart c || c = '.'

/-- The name in a reference, from behind its opening, and what follows the reference. -/
def reference? (s : List Char) : Option (List Char × List Char) :=
  match s with
  | [] => none
  | c :: _ =>
    match s.span isPart with
    | (name, '\x7d' :: rest) => if isStart c then some (name, rest) else none
    | _ => none

/-- The name in the reference that the text starts with, if it does, and the length of the
    reference. -/
def leading? (s : List Char) : Option (String × Nat) := do
  guard (opening.isPrefixOf s)
  let (name, rest) ← reference? (s.drop opening.length)
  return (String.ofList name, s.length - rest.length)

/-- The text with the values in place, less its first `skip` characters. -/
def expandChars (lookup : String → Option String) : (skip : Nat) → List Char → List Char
  | _, [] => []
  | skip + 1, _ :: r => expandChars lookup skip r
  | 0, c :: r =>
    match leading? (c :: r) with
    | none => c :: expandChars lookup 0 r
    | some (name, length) =>
      match lookup name with
      | none => c :: expandChars lookup 0 r
      | some value => value.toList ++ expandChars lookup (length - 1) r

/-- The path with the values of its variables in place. -/
def expand (lookup : String → Option String) (path : String) : String :=
  String.ofList (expandChars lookup 0 path.toList)

/-- The variables that a path refers to. -/
def referred (path : String) : List String :=
  (List.range path.length).filterMap fun n : Nat => (leading? (path.toList.drop n)).map (·.1)

end LedBoard.CommandLine.Variables
