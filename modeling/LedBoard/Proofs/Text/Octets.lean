import LedBoard.Text.Terminator
import LedBoard.Text.Utf8
import Mathlib.Data.List.Flatten
import Mathlib.Data.String.Basic
import Mathlib.Tactic.SplitIfs

/-!
# The octets of texts

A text is read back from its octets, whatever stands behind them, and the order of texts is that
of their octets. Both are seen on one character at a time. A character is written in digits of
six bits, and the lead octet tells how many digits follow, so what it announces is just what is
there; and of two characters the lesser one has the lesser octet at the first place where their
octets differ.

* `decodeLossy_encode`: the octets of a text are read as the text;
* `encode_lt_encode_iff`: texts are ordered as their octets are;
* `length_encode_withoutNul_le`: leaving characters out makes a text no longer.
-/

namespace LedBoard.Text

theorem encode_eq (s : String) : encode s = s.toList.flatMap String.utf8EncodeChar := by
  obtain ⟨cs, rfl⟩ := s.exists_eq_ofList
  rw [encode, String.toUTF8_eq_toByteArray, String.toByteArray_ofList, String.toList_ofList,
    List.utf8Encode, List.toList_data_toByteArray]

/-! ## Octets as numbers -/

section Numbers

variable {m n : Nat}

theorem toNat_octet (h : n < 256) : (UInt8.ofNat n).toNat = n := by
  rw [UInt8.toNat_ofNat', Nat.mod_eq_of_lt h]

theorem octet_lt (hm : m < 256) (hn : n < 256) : UInt8.ofNat m < UInt8.ofNat n ↔ m < n := by
  rw [UInt8.lt_iff_toNat_lt, toNat_octet hm, toNat_octet hn]

theorem octet_inj (hm : m < 256) (hn : n < 256) : UInt8.ofNat m = UInt8.ofNat n ↔ m = n := by
  rw [← UInt8.toNat_inj, toNat_octet hm, toNat_octet hn]

theorem announced_octet (h : n < 256) :
    announced (UInt8.ofNat n) =
      if n < 0x80 then some (n, [])
      else if n < 0xc2 then none
      else if n < 0xe0 then some (n - 0xc0, [(0x80, 0xbf)])
      else if n < 0xf0 then some (n - 0xe0,
        [if n = 0xe0 then (0xa0, 0xbf) else if n = 0xed then (0x80, 0x9f) else (0x80, 0xbf),
          (0x80, 0xbf)])
      else if n < 0xf5 then some (n - 0xf0,
        [if n = 0xf0 then (0x90, 0xbf) else if n = 0xf4 then (0x80, 0x8f) else (0x80, 0xbf),
          (0x80, 0xbf), (0x80, 0xbf)])
      else none := by
  rw [announced]
  simp only [UInt8.lt_iff_toNat_lt, ← UInt8.toNat_inj, toNat_octet h, UInt8.reduceToNat]

end Numbers

/-! ## Reading back -/

/-- A digit of six bits is read if its octet is in the range asked for. -/
theorem following_octet {lo hi : UInt8} (ranges : List (UInt8 × UInt8)) (code : Nat) {n : Nat}
    (rest : Octets) (hlo : lo.toNat ≤ n + 0x80) (hhi : n + 0x80 ≤ hi.toNat) :
    following ((lo, hi) :: ranges) code (UInt8.ofNat (n + 0x80) :: rest) =
      following ranges (code * 64 + n) rest := by
  have hn : (UInt8.ofNat (n + 0x80)).toNat = n + 0x80 :=
    toNat_octet (hhi.trans_lt hi.toNat_lt)
  rw [following, if_pos, hn, Nat.add_sub_cancel]
  rw [UInt8.le_iff_toNat_le, UInt8.le_iff_toNat_le, hn]
  exact ⟨hlo, hhi⟩

/-- A digit of six bits is read where nothing more is asked of it. -/
theorem following_digit (ranges : List (UInt8 × UInt8)) (code n : Nat) (rest : Octets) :
    following ((0x80, 0xbf) :: ranges) code (UInt8.ofNat (n % 64 + 0x80) :: rest) =
      following ranges (code * 64 + n % 64) rest := by
  have hlt : n % 64 < 64 := Nat.mod_lt n (by decide)
  exact following_octet ranges code rest (Nat.le_add_left ..) (by change _ ≤ 191; omega)

/-- Of three octets: the first digit is read, which the lead octet may ask more of. -/
theorem following_second {n : Nat} (h : 0x7ff < n ∧ n < 0xd800 ∨ 0xdfff < n ∧ n ≤ 0xffff)
    (ranges : List (UInt8 × UInt8)) (code : Nat) (rest : Octets) :
    following ((if n / 4096 % 16 + 0xe0 = 0xe0 then (0xa0, 0xbf)
        else if n / 4096 % 16 + 0xe0 = 0xed then (0x80, 0x9f) else (0x80, 0xbf)) :: ranges) code
      (UInt8.ofNat (n / 64 % 64 + 0x80) :: rest) =
      following ranges (code * 64 + n / 64 % 64) rest := by
  split_ifs with h₁ h₂
  · exact following_octet ranges code rest (by change 160 ≤ _; omega) (by change _ ≤ 191; omega)
  · exact following_octet ranges code rest (by change 128 ≤ _; omega) (by change _ ≤ 159; omega)
  · exact following_digit ranges code (n / 64) rest

/-- The same of four octets. -/
theorem following_second_of_four {n : Nat} (h : 0xffff < n ∧ n < 0x110000)
    (ranges : List (UInt8 × UInt8)) (code : Nat) (rest : Octets) :
    following ((if n / 262144 % 8 + 0xf0 = 0xf0 then (0x90, 0xbf)
        else if n / 262144 % 8 + 0xf0 = 0xf4 then (0x80, 0x8f) else (0x80, 0xbf)) :: ranges) code
      (UInt8.ofNat (n / 4096 % 64 + 0x80) :: rest) =
      following ranges (code * 64 + n / 4096 % 64) rest := by
  split_ifs with h₁ h₂
  · exact following_octet ranges code rest (by change 144 ≤ _; omega) (by change _ ≤ 191; omega)
  · exact following_octet ranges code rest (by change 128 ≤ _; omega) (by change _ ≤ 143; omega)
  · exact following_digit ranges code (n / 4096) rest

/-- The octets of a character are read as this character, and nothing behind them is. -/
theorem nextChar_encodeChar (c : Char) (rest : Octets) :
    ∃ lead tail, String.utf8EncodeChar c = lead :: tail ∧
      nextChar lead (tail ++ rest) = (some c, rest) := by
  have hvalid : c.val.toNat < 0xd800 ∨ 0xdfff < c.val.toNat ∧ c.val.toNat < 0x110000 := c.valid
  have hc : Char.ofNat c.val.toNat = c := Char.ofNat_toNat c
  rw [String.utf8EncodeChar]
  generalize c.val.toNat = n at *
  -- By the number of octets; the digits of six bits put together are the code again.
  split_ifs with h₁ h₂ h₃
  · refine ⟨_, _, rfl, ?_⟩
    rw [nextChar, announced_octet (by omega), if_pos (by omega)]
    change ((some n).map Char.ofNat, rest) = _
    rw [Option.map_some, hc]
  · have hdigits : (n / 64 % 32 + 192 - 192) * 64 + n % 64 = n := by omega
    refine ⟨_, _, rfl, ?_⟩
    rw [nextChar, announced_octet (by omega), if_neg (by omega), if_neg (by omega),
      if_pos (by omega)]
    simp only [List.cons_append, List.nil_append, following_digit, following, Option.map_some]
    rw [hdigits, hc]
  · have hdigits : ((n / 4096 % 16 + 224 - 224) * 64 + n / 64 % 64) * 64 + n % 64 = n := by omega
    refine ⟨_, _, rfl, ?_⟩
    rw [nextChar, announced_octet (by omega), if_neg (by omega), if_neg (by omega),
      if_neg (by omega), if_pos (by omega)]
    dsimp only [List.cons_append, List.nil_append]
    rw [following_second (by omega), following_digit, following, Option.map_some, hdigits, hc]
  · have hdigits : (((n / 262144 % 8 + 240 - 240) * 64 + n / 4096 % 64) * 64 + n / 64 % 64) * 64 +
        n % 64 = n := by omega
    refine ⟨_, _, rfl, ?_⟩
    rw [nextChar, announced_octet (by omega), if_neg (by omega), if_neg (by omega),
      if_neg (by omega), if_neg (by omega), if_pos (by omega)]
    dsimp only [List.cons_append, List.nil_append]
    rw [following_second_of_four (by omega), following_digit, following_digit, following,
      Option.map_some, hdigits, hc]

/-- The octets of characters are read as the characters, one after the other. -/
theorem decodeLossyChars_encode (cs : List Char) :
    decodeLossyChars (cs.flatMap String.utf8EncodeChar) = cs := by
  induction cs with
  | nil => rw [List.flatMap_nil, decodeLossyChars]
  | cons c rest ih =>
    obtain ⟨lead, tail, hc, hnext⟩ := nextChar_encodeChar c (rest.flatMap String.utf8EncodeChar)
    rw [List.flatMap_cons, hc, List.cons_append, decodeLossyChars, hnext, Option.getD_some, ih]

/-- The octets of a text are read as the text. -/
theorem decodeLossy_encode (s : String) : decodeLossy (encode s) = s := by
  rw [decodeLossy, encode_eq, decodeLossyChars_encode, String.ofList_toList]

/-! ## Order -/

/-- Of two characters the lesser one has the lesser octets, whatever stands behind them. -/
theorem encodeChar_lt {c d : Char} (h : c < d) (xs ys : Octets) :
    String.utf8EncodeChar c ++ xs < String.utf8EncodeChar d ++ ys := by
  have hlt : c.val.toNat < d.val.toNat := h
  have hd : d.val.toNat < 0xd800 ∨ 0xdfff < d.val.toNat ∧ d.val.toNat < 0x110000 := d.valid
  rw [String.utf8EncodeChar, String.utf8EncodeChar]
  generalize c.val.toNat = n, d.val.toNat = m at *
  -- Digit by digit, so that a later digit is related to those before it.
  have htwo (k : Nat) : k / 4096 = k / 64 / 64 := (Nat.div_div_eq_div_mul k 64 64).symm
  have hthree (k : Nat) : k / 262144 = k / 64 / 64 / 64 := by
    rw [Nat.div_div_eq_div_mul, Nat.div_div_eq_div_mul]
  rw [htwo, htwo, hthree, hthree]
  -- More octets have the greater lead octet; the same number is compared octet by octet.
  split_ifs <;>
    simp (disch := omega) only [List.cons_append, List.nil_append, List.cons_lt_cons_iff,
      octet_lt, octet_inj] <;>
    omega

/-- The octets of the lesser of two texts are the lesser ones: up to the first character that
    differs they are the same. -/
theorem encodeChars_lt {cs ds : List Char} (h : cs < ds) :
    cs.flatMap String.utf8EncodeChar < ds.flatMap String.utf8EncodeChar := by
  induction h with
  | @nil d ds =>
    rw [List.flatMap_nil, List.flatMap_cons]
    have hne : String.utf8EncodeChar d ++ ds.flatMap String.utf8EncodeChar ≠ [] :=
      List.append_ne_nil_of_left_ne_nil String.utf8EncodeChar_ne_nil _
    obtain ⟨x, xs, hxs⟩ := List.exists_cons_of_ne_nil hne
    rw [hxs]
    exact List.nil_lt_cons x xs
  | rel hcd =>
    rw [List.flatMap_cons, List.flatMap_cons]
    exact encodeChar_lt hcd _ _
  | cons _ ih =>
    rw [List.flatMap_cons, List.flatMap_cons]
    exact List.append_left_lt ih

/-- Texts are ordered as their octets are. -/
theorem encode_lt_encode_iff {s t : String} : encode s < encode t ↔ s < t := by
  have hforward {s t : String} (h : s < t) : encode s < encode t := by
    rw [encode_eq, encode_eq]
    exact encodeChars_lt h
  constructor
  · intro h
    rcases lt_trichotomy s t with hlt | rfl | hgt
    · exact hlt
    · exact absurd h (List.lt_irrefl _)
    · exact absurd (hforward hgt) (List.lt_asymm h)
  · exact hforward

/-! ## Leaving characters out -/

/-- Leaving characters out makes a text no longer. -/
theorem length_encode_withoutNul_le (s : String) :
    (encode (withoutNul s)).length ≤ (encode s).length := by
  rw [encode_eq, encode_eq, withoutNul, String.toList_ofList]
  exact (List.filter_sublist.flatMap _).length_le

end LedBoard.Text
