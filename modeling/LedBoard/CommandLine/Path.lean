/-!
# Paths

A path is names between slashes; one that starts with a slash starts at the root. Two slashes
are as good as one, and a point stands for where it is.

* `Path.names`: the names along a path;
* `Path.around`: the paths of the folders around what a path leads to.
-/

namespace LedBoard.CommandLine.Path

/-- The path starts at the root. -/
def isAbsolute (path : String) : Bool := path.toList.head? = some '/'

/-- The path is written as that of a folder. -/
def endsInSlash (path : String) : Bool := path.toList.getLast? = some '/'

/-- The names along the path. -/
def names (path : String) : List String := (path.splitOn "/").filter (· ≠ "")

/-- The path ends where nothing but a folder can be: at the root, or in a point or two. -/
def endsInFolder (path : String) : Bool :=
  (names path).getLast?.all fun name => name = "." || name = ".."

/-- A path, given by what stands between its slashes from the last to the first, and after it
    the paths of the folders around what it leads to, the innermost first. A slash too many and
    a point within a path lead nowhere and count for nothing. The root is left out. -/
def chain : List String → List (List String)
  | [] => []
  | part :: rest =>
    if part = "" || (part = "." && !rest.isEmpty) then chain rest
    else (part :: rest) :: chain rest

/-- The paths of the folders around what a path leads to, the innermost first, up to the root or
    to where the path starts. -/
def around (path : String) : List String :=
  (chain (path.splitOn "/").reverse).tail.map fun parts => "/".intercalate parts.reverse

end LedBoard.CommandLine.Path
