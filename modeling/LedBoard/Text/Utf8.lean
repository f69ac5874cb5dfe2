/-!
# Texts as octets

A text is written as octets in UTF-8 (`encode`). Octets that come from elsewhere need not be
the writing of any text, and are read in two ways: `decode?` refuses what is not well formed,
and `decodeLossy` reads everything, showing each maximal ill-formed part as one replacement
character. Both take the octets character by character (`nextChar`): a lead octet says how many
octets must follow and in which ranges; where one is missing or out of range, the part read so
far is ill formed, and reading goes on at the octet that did not fit.
-/

namespace LedBoard.Text

/-- A text of another program: octets without a promise. -/
abbrev Octets := List UInt8

/-- The octets of a text. -/
def encode (s : String) : Octets := s.toUTF8.data.toList

/-- What a lead octet announces: the bits of the code point it carries itself, and the ranges
    of the octets that follow. -/
def announced (lead : UInt8) : Option (Nat × List (UInt8 × UInt8)) :=
  let tail : UInt8 × UInt8 := (0x80, 0xbf)
  if lead < 0x80 then some (lead.toNat, [])
  else if lead < 0xc2 then none
  else if lead < 0xe0 then some (lead.toNat - 0xc0, [tail])
  else if lead < 0xf0 then
    let second := if lead = 0xe0 then (0xa0, 0xbf) else if lead = 0xed then (0x80, 0x9f) else tail
    some (lead.toNat - 0xe0, [second, tail])
  else if lead < 0xf5 then
    let second := if lead = 0xf0 then (0x90, 0xbf) else if lead = 0xf4 then (0x80, 0x8f) else tail
    some (lead.toNat - 0xf0, [second, tail, tail])
  else none

/-- Reads the octets that must follow, six bits each, onto the bits `code`: the code point,
    if all are there, and the octets left over. -/
def following : List (UInt8 × UInt8) → Nat → Octets → Option Nat × Octets
  | [], code, rest => (some code, rest)
  | _ :: _, _, [] => (none, [])
  | (lo, hi) :: ranges, code, b :: rest =>
    if lo ≤ b ∧ b ≤ hi then following ranges (code * 64 + (b.toNat - 0x80)) rest
    else (none, b :: rest)

/-- What follows a lead is taken from the octets behind it. -/
theorem length_following (ranges : List (UInt8 × UInt8)) (code : Nat) (bs : Octets) :
    (following ranges code bs).2.length ≤ bs.length := by
  induction ranges generalizing code bs with
  | nil => simp [following]
  | cons r ranges ih =>
    cases bs with
    | nil => simp [following]
    | cons b rest =>
      simp only [following]
      split
      · exact Nat.le_trans (ih _ _) (by simp)
      · simp

/-- Reads one character off octets that start with `lead`: `none` for an ill-formed part. -/
def nextChar (lead : UInt8) (rest : Octets) : Option Char × Octets :=
  match announced lead with
  | none => (none, rest)
  | some (code, ranges) =>
    let (code, rest) := following ranges code rest
    (code.map Char.ofNat, rest)

/-- Decoding a character leaves no more octets than stand behind its lead, so decoding ends. -/
theorem length_nextChar (lead : UInt8) (rest : Octets) :
    (nextChar lead rest).2.length ≤ rest.length := by
  unfold nextChar
  split
  · simp
  · exact length_following _ _ _

/-- The characters the octets stand for, U+FFFD for each maximal ill-formed part. -/
def decodeLossyChars : Octets → List Char
  | [] => []
  | lead :: rest =>
    (nextChar lead rest).1.getD '\ufffd' :: decodeLossyChars (nextChar lead rest).2
  termination_by bs => bs.length
  decreasing_by exact Nat.lt_succ_of_le (length_nextChar lead rest)

/-- The text the octets stand for, U+FFFD for each maximal ill-formed part. -/
def decodeLossy (bs : Octets) : String := String.ofList (decodeLossyChars bs)

/-- The characters of well-formed octets. -/
def decodeChars? : Octets → Option (List Char)
  | [] => some []
  | lead :: rest =>
    match (nextChar lead rest).1 with
    | none => none
    | some c => (decodeChars? (nextChar lead rest).2).map (c :: ·)
  termination_by bs => bs.length
  decreasing_by exact Nat.lt_succ_of_le (length_nextChar lead rest)

/-- The text that well-formed octets are the writing of. -/
def decode? (bs : Octets) : Option String := (decodeChars? bs).map String.ofList

end LedBoard.Text
