import LedBoard.Json.Reader

/-!
# JSON texts as trees

Where the shape of a JSON text is not known beforehand, it is read whole into a tree. The arrays
and objects around a value are limited in number.
-/

namespace LedBoard.Json

/-- A JSON value. -/
inductive Tree
  | null
  | bool (b : Bool)
  | number (n : Number)
  | string (s : String)
  | array (items : List Tree)
  /-- The members in the order in which they stand. -/
  | object (members : List (String × Tree))

namespace Tree

/-- The greatest number of arrays and objects that stand within each other. -/
def depthLimit : Nat := 127

mutual

/-- Reads a value in which at most `depth` arrays and objects stand within each other. Every step
    down takes a character, so `fuel` is the length of the text. -/
def read : (fuel depth : Nat) → Reader Tree
  | 0, _, _ => .error (.ended .value)
  | fuel + 1, depth, s =>
    match skipBlanks s with
    | [] => .error (.ended .value)
    | 'n' :: r => (readWord ['u', 'l', 'l'] r).map (.null, ·)
    | 't' :: r => (readWord ['r', 'u', 'e'] r).map (.bool true, ·)
    | 'f' :: r => (readWord ['a', 'l', 's', 'e'] r).map (.bool false, ·)
    | '"' :: r => (readString true r).map fun (text, r) => (.string (String.ofList text), r.val)
    | '[' :: r =>
      match depth with
      | 0 => .error .tooDeep
      | depth + 1 => (readItems fuel depth true r).map fun (items, r) => (.array items, r)
    | '\x7b' :: r =>
      match depth with
      | 0 => .error .tooDeep
      | depth + 1 => (readEntries fuel depth true r).map fun (members, r) => (.object members, r)
    | '-' :: r => (readNumber true r).map fun (n, r) => (.number n, r)
    | c :: r =>
      if c.isDigit then (readNumber false (c :: r)).map fun (n, r) => (.number n, r)
      else .error .expectedValue

/-- Reads the items of an array from behind its bracket or behind an item. -/
def readItems : (fuel depth : Nat) → (first : Bool) → Reader (List Tree)
  | 0, _, _, _ => .error (.ended .list)
  | fuel + 1, depth, first, s => do
    let item ←
      match skipBlanks s with
      | [] => throw (.ended .list)
      | ']' :: r => return ([], r)
      | ',' :: r => if first then throw .expectedValue else pure r
      | r => if first then pure r else throw .expectedCommaOrBracket
    let (t, r) ← read fuel depth item
    let (ts, r) ← readItems fuel depth false r
    return (t :: ts, r)

/-- Reads the members of an object from behind its brace or behind a member. -/
def readEntries : (fuel depth : Nat) → (first : Bool) → Reader (List (String × Tree))
  | 0, _, _, _ => .error (.ended .object)
  | fuel + 1, depth, first, s => do
    let key ←
      match skipBlanks s with
      | [] => throw (.ended .object)
      | '\x7d' :: r => return ([], r)
      | ',' :: r => if first then throw .keyNotString else pure (skipBlanks r)
      | r => if first then pure r else throw .expectedCommaOrBrace
    match key with
    | '"' :: r => do
      let (name, r) ← readString true r
      let (t, r) ← read fuel depth (← readColon r)
      let (ts, r) ← readEntries fuel depth false r
      return ((String.ofList name, t) :: ts, r)
    | _ => throw .keyNotString

end

/-- Reads a text that is one JSON value. -/
def ofText? (text : String) : Except Problem Tree :=
  readAll (read text.length.succ depthLimit) text

/-- The member of a key; of several the last one counts. -/
def get? : Tree → String → Option Tree
  | .object members, key => members.reverse.lookup key
  | _, _ => none

end Tree

end LedBoard.Json
