import LedBoard.Native
import LedBoard.Text.Quoted

/-!
# Modules

A module is a named group of native functions that a script can import, together with the names
of the modules that come along with it. It is built up from an empty one, function by function
and import by import. Of two functions given under one name the later one counts; the functions
are kept in the order of their names, so that the order in which they were given leaves no
trace, while the imports are kept as they were given, repetitions included.
-/

namespace LedBoard

/-- An importable group of native functions on a host `σ`. -/
structure Module (σ : Type) where
  name : String
  /-- The functions by name, in increasing order of the names. -/
  functions : List (String × Native σ)
  /-- The modules imported along with it, in order. -/
  imports : List String

namespace Module

variable {σ : Type}

/-- The module of a name that has no functions and no imports. -/
def empty (name : String) : Module σ := ⟨name, [], []⟩

/-- Puts `f` under `name` into functions that are in the order of their names, in place of one
    already there. Texts are compared by code points, which is the order of their octets. -/
def insertFunction (name : String) (f : Native σ) :
    List (String × Native σ) → List (String × Native σ)
  | [] => [(name, f)]
  | (n, g) :: rest =>
    if name < n then (name, f) :: (n, g) :: rest
    else if name = n then (name, f) :: rest
    else (n, g) :: insertFunction name f rest

/-- The module with a function more. -/
def function (m : Module σ) (name : String) (f : Native σ) : Module σ :=
  { m with functions := insertFunction name f m.functions }

/-- The module with an import more. -/
def addImport (m : Module σ) (name : String) : Module σ :=
  { m with imports := m.imports ++ [name] }

/-- The names of the functions, in increasing order. -/
def functionNames (m : Module σ) : List String := m.functions.map (·.1)

/-- The function of a name. -/
def function? (m : Module σ) (name : String) : Option (Native σ) := m.functions.lookup name

/-- Texts as a list of quoted texts. -/
def quotedList (texts : List String) : String :=
  "[" ++ Text.joined ", " (texts.map Text.quoted) ++ "]"

/-- The module as text, with the names of its functions. -/
def describe (m : Module σ) : String :=
  "Module \x7b name: " ++ Text.quoted m.name ++ ", functions: " ++ quotedList m.functionNames ++
    ", imports: " ++ quotedList m.imports ++ " \x7d"

end Module

end LedBoard
