import LedBoard.Time.Pattern

/-!
# Time in paths

A path can refer to the time: a dollar sign, `TIME`, and between braces a pattern, which ends at
the first closing brace. The reference stands for the time as the pattern says. What is put in
place counts as part of the path, so that it can complete a further reference; the first
references are replaced, up to a limit. A reference without a closing brace stands for itself.

* `Stamps.expand?`: the path with the time in place, unless a pattern cannot be read.
-/

namespace LedBoard.CommandLine.Stamps

/-- What a reference starts with. -/
def opening : List Char := ['$', 'T', 'I', 'M', 'E', '\x7b']

/-- The greatest number of references that are replaced. -/
def limit : Nat := 5

/-- What stands before the first opening and what stands behind it. -/
def splitAtOpening? : List Char → Option (List Char × List Char)
  | [] => none
  | c :: r =>
    if opening.isPrefixOf (c :: r) then some ([], (c :: r).drop opening.length)
    else (splitAtOpening? r).map fun (before, behind) => (c :: before, behind)

/-- What stands before the first reference, its pattern, and what stands behind it. -/
def split? (s : List Char) : Option (List Char × String × List Char) := do
  let (before, behind) ← splitAtOpening? s
  match behind.span (· != '\x7d') with
  | (pattern, _ :: rest) => some (before, String.ofList pattern, rest)
  | (_, []) => none

/-- The text with the time in place of so many references. -/
def expandChars? (now : Time.Moment) : (references : Nat) → List Char → Option (List Char)
  | 0, s => some s
  | n + 1, s =>
    match split? s with
    | none => some s
    | some (before, pattern, rest) => do
      let pattern ← Time.Pattern.ofText? pattern
      expandChars? now n (before ++ (pattern.write now).toList ++ rest)

/-- The path with the time in place of its references. -/
def expand? (now : Time.Moment) (path : String) : Option String :=
  (expandChars? now limit path.toList).map String.ofList

end LedBoard.CommandLine.Stamps
