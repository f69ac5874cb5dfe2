import LedBoard.Json.Problem
import LedBoard.Text.Hex

/-!
# The words of a JSON text

A JSON text is read off the front of a list of characters. This module reads its smallest
parts: white space, the words `true`, `false` and `null`, strings and numbers. Each reader
returns what it read and the characters left over, which are fewer.

A string is read in one of two ways. Where its text is wanted, the two escapes of a character
beyond the first 65536 must stand together; where it is skipped they are not looked at.
-/

namespace LedBoard.Json

/-- The characters left over from `s`: fewer than `s` has. -/
abbrev Rest (s : List Char) := { r : List Char // r.length < s.length }

/-- The white space of JSON. -/
def isBlank (c : Char) : Bool := c == ' ' || c == '\t' || c == '\n' || c == '\r'

/-- The characters from the first one on that is not white space. -/
def skipBlanks (s : List Char) : List Char := s.dropWhile isBlank

/-- Reads the rest of a word. -/
def readWord : List Char → List Char → Except Problem (List Char)
  | [], s => .ok s
  | _ :: _, [] => .error (.ended .value)
  | w :: word, c :: s => if c = w then readWord word s else .error .expectedWord

/-! ## Strings -/

/-- Reads four hexadecimal digits. If fewer than four octets are left, the string is unfinished. -/
def readHex (s : List Char) : Except Problem (Nat × Rest s) :=
  match s with
  | a :: b :: c :: d :: rest =>
    match Text.hexValue? [a, b, c, d] with
    | some n => .ok (n, ⟨rest, by simp only [List.length_cons]; omega⟩)
    | none => .error .invalidEscape
  | _ =>
    if (s.map Char.utf8Size).foldl Nat.add 0 < 4 then .error (.ended .string)
    else .error .invalidEscape

/-- The first half of the pair of a character beyond the first 65536. -/
def isLeading (n : Nat) : Bool := 0xd800 ≤ n && n ≤ 0xdbff

/-- The second half of such a pair. -/
def isTrailing (n : Nat) : Bool := 0xdc00 ≤ n && n ≤ 0xdfff

/-- Reads the second half of a pair whose first half is `n`. -/
def readPartner (n : Nat) (s : List Char) : Except Problem (Char × Rest s) :=
  match s with
  | [] => .error (.ended .string)
  | '\\' :: [] => .error (.ended .string)
  | '\\' :: 'u' :: rest =>
    match readHex rest with
    | .error p => .error p
    | .ok (m, ⟨r, h⟩) =>
      if isTrailing m then
        .ok (Char.ofNat (0x10000 + (n - 0xd800) * 1024 + (m - 0xdc00)),
          ⟨r, by simp only [List.length_cons]; omega⟩)
      else .error .loneSurrogate
  | _ => .error .unpairedEscape

/-- Reads what follows a backslash. If the text is not `wanted`, halves of pairs may stand
    alone. -/
def readEscape (wanted : Bool) (s : List Char) : Except Problem (Char × Rest s) :=
  match s with
  | [] => .error (.ended .string)
  | c :: rest =>
    let plain (e : Char) : Except Problem (Char × Rest (c :: rest)) :=
      .ok (e, ⟨rest, Nat.lt_succ_self _⟩)
    if c = '"' ∨ c = '\\' ∨ c = '/' then plain c
    else if c = 'b' then plain '\x08'
    else if c = 'f' then plain '\x0c'
    else if c = 'n' then plain '\n'
    else if c = 'r' then plain '\r'
    else if c = 't' then plain '\t'
    else if c = 'u' then
      match readHex rest with
      | .error p => .error p
      | .ok (n, ⟨r, h⟩) =>
        if !wanted || !(isLeading n || isTrailing n) then
          .ok (Char.ofNat n, ⟨r, Nat.lt_succ_of_lt h⟩)
        else if isTrailing n then .error .loneSurrogate
        else
          match readPartner n r with
          | .error p => .error p
          | .ok (e, ⟨r', h'⟩) => .ok (e, ⟨r', Nat.lt_succ_of_lt (Nat.lt_trans h' h)⟩)
    else .error .invalidEscape

/-- Reads a string from behind its first quote. -/
def readString (wanted : Bool) (s : List Char) : Except Problem (List Char × Rest s) :=
  match s with
  | [] => .error (.ended .string)
  | c :: rest =>
    if c = '"' then .ok ([], ⟨rest, Nat.lt_succ_self _⟩)
    else if c = '\\' then
      match readEscape wanted rest with
      | .error p => .error p
      | .ok (e, ⟨r, h⟩) =>
        match readString wanted r with
        | .error p => .error p
        | .ok (text, ⟨r', h'⟩) => .ok (e :: text, ⟨r', by simp only [List.length_cons]; omega⟩)
    else if c.toNat < 0x20 then .error .controlCharacter
    else
      match readString wanted rest with
      | .error p => .error p
      | .ok (text, ⟨r, h⟩) => .ok (c :: text, ⟨r, by simp only [List.length_cons]; omega⟩)
  termination_by s.length
  decreasing_by all_goals simp only [List.length_cons]; omega

end LedBoard.Json
