import LedBoard.Config
import LedBoard.Proofs.Json.Integers

/-!
# Settings written and read

Settings that were written are read as the same settings. More generally, what is read of an
object depends only on which fields it has values for: a field that is there has its value, however
the text around and within it is written, and a field that is not there has its default. Neither
the order of the members nor the members with other keys leave a trace.

The values are put into the defaults one after the other, and each puts the field that it is for
(`adopt`), so a field has the value of the settings as soon as one of the values has been for it.

* `Member.puts_of_writes`: what a member with a value of the settings puts;
* `config_round_trip`: the statements together.
-/

namespace LedBoard.Config

open Json (Member Reads Space Spells Written noSpace)

/-- The keys of the fields. -/
def keys : List String := fields.map (·.key)

/-- The text is the value that the settings have for the field of the key: a string in any
    spelling, the digits of a number, or a truth value. -/
inductive Writes (c : Config) : String → List Char → Prop
  | microphone {s : List Char} (h : Spells true c.microphone.name.toList s) :
      Writes c "microphone" ('"' :: (s ++ ['"']))
  | scrollFrameMs : Writes c "scroll_frame_ms" (Text.decimalNat c.scrollFrameMs.toNat).toList
  | enableOsAccess : Writes c "enable_os_access" (Text.truth c.enableOsAccess).toList

/-- The settings `d` with the field of the key as in `c`. -/
def adopt (c : Config) (key : String) (d : Config) : Config where
  microphone := if key = "microphone" then c.microphone else d.microphone
  scrollFrameMs := if key = "scroll_frame_ms" then c.scrollFrameMs else d.scrollFrameMs
  enableOsAccess := if key = "enable_os_access" then c.enableOsAccess else d.enableOsAccess

/-! ## Values -/

theorem reads_microphone {m : Microphone} {s : List Char} (h : Spells true m.name.toList s) :
    Reads (Json.readVariant Microphone.names) ('"' :: (s ++ ['"'])) m.name := by
  intro space rest _
  obtain ⟨_, hread⟩ := Json.readString_spells h rest
  have hknown : Microphone.names.contains m.name = true := by cases m <;> decide
  rw [Json.readVariant, List.cons_append, Json.skipBlanks_eq space.2 (by rfl), List.append_assoc]
  change Json.readVariantName Microphone.names (s ++ '"' :: rest) = _
  simp only [Json.readVariantName, hread, Json.ok_bind, String.ofList_toList, hknown]
  rfl

/-- A frame time is read back from its digits, up to the largest. -/
theorem reads_decimalNat (n : UInt64) :
    Reads Json.readUInt64 (Text.decimalNat n.toNat).toList n := by
  refine Json.local_readUInt64.reads ?_
  have hlt : n.toNat < Nat.pow 2 64 := n.toNat_lt
  have hfits : n.toNat ≤ Json.maxSignificand := Nat.le_sub_one_of_lt hlt
  have hbound : (0 ≤ (n.toNat : Int) && (n.toNat : Int) < (Nat.pow 2 64 : Nat)) = true := by
    simp only [Bool.and_eq_true, decide_eq_true_eq]
    exact ⟨Int.natCast_nonneg _, Int.ofNat_lt.2 hlt⟩
  have hnatural : Json.readNatural (Nat.pow 2 64) "u64" (Nat.toDigits 10 n.toNat) =
      .ok (n.toNat, []) := by
    rw [Json.readNatural, Json.readNumeric_isWhole _ (Json.isWhole_toDigits _),
      Json.readNumber_toDigits hfits, Json.ok_bind]
    exact if_pos hbound
  rw [Text.decimalNat, String.toList_ofList, Json.readUInt64, hnatural]
  exact congrArg (fun m => Except.ok (m, [])) (UInt64.ofNat_toNat)

theorem reads_truth (b : Bool) : Reads Json.readBool (Text.truth b).toList b :=
  Json.local_readBool.reads (by cases b <;> rfl)

theorem ofName_name (m : Microphone) : Microphone.ofName m.name = m := by
  cases m <;> rfl

/-- A value of the settings is read and put into the field that it is for. -/
theorem Writes.reads {c : Config} {key : String} {v : List Char} (h : c.Writes key v) :
    ∃ field, fields.find? (·.key = key) = some field ∧ Reads field.read v (c.adopt key) := by
  cases h with
  | microphone h =>
    refine ⟨_, rfl, ?_⟩
    have hread := (reads_microphone h).field "microphone"
      fun name (d : Config) => { d with microphone := .ofName name }
    rw [ofName_name] at hread
    exact hread
  | scrollFrameMs =>
    exact ⟨_, rfl, (reads_decimalNat c.scrollFrameMs).field "scroll_frame_ms"
      fun ms (d : Config) => { d with scrollFrameMs := ms }⟩
  | enableOsAccess =>
    exact ⟨_, rfl, (reads_truth c.enableOsAccess).field "enable_os_access"
      fun b (d : Config) => { d with enableOsAccess := b }⟩

/-- A member has a value of the settings for its field, or is for no field. -/
theorem puts_adopt {c : Config} {m : Member}
    (h : c.Writes m.name m.value ∨ m.name ∉ keys ∧ Written .value m.value) :
    m.Puts fields (c.adopt m.name) := by
  obtain h | ⟨hunknown, hvalue⟩ := h
  · obtain ⟨field, hfind, hread⟩ := h.reads
    exact .known hfind hread
  · have hadopt : c.adopt m.name = id := by
      funext d
      simp only [keys, fields, List.map_cons, List.map_nil, Json.Field.of, List.mem_cons,
        List.not_mem_nil, or_false, not_or] at hunknown
      rw [adopt, if_neg hunknown.1, if_neg hunknown.2.1, if_neg hunknown.2.2]
      rfl
    rw [hadopt]
    refine .unknown (List.find?_eq_none.2 fun field hfield hkey => hunknown ?_) hvalue
    exact of_decide_eq_true hkey ▸ List.mem_map_of_mem hfield

/-! ## Objects -/

/-- The settings `d` with the fields of the keys as in `c`. -/
def adoptAll (c : Config) (keys : List String) (d : Config) : Config where
  microphone := if "microphone" ∈ keys then c.microphone else d.microphone
  scrollFrameMs := if "scroll_frame_ms" ∈ keys then c.scrollFrameMs else d.scrollFrameMs
  enableOsAccess := if "enable_os_access" ∈ keys then c.enableOsAccess else d.enableOsAccess

/-- Fields adopted one after the other are those adopted at once. -/
theorem foldl_adopt (c d : Config) (keys : List String) :
    keys.foldl (fun d key => c.adopt key d) d = c.adoptAll keys d := by
  induction keys generalizing d with
  | nil => rfl
  | cons key keys ih =>
    have hfield : ∀ {α : Type} (name : String) (a b : α),
        (if name ∈ keys then a else if key = name then a else b) =
          if name ∈ key :: keys then a else b := by
      intro α name a b
      by_cases hname : name = key
      · subst hname
        rw [if_pos rfl, ite_self, if_pos List.mem_cons_self]
      · simp only [List.mem_cons, hname, false_or, Ne.symm hname, if_false]
    rw [List.foldl_cons, ih, adoptAll, adoptAll, adopt]
    simp only [hfield]

/-- The settings of an object with values of `c`: each of its fields as in `c`, and the others as
    by default. -/
theorem ofJson?_object {c : Config} {text : String} {members : List Member}
    {outer inner after : Space} (htext : text.toList = outer ++ Json.objectText inner members after)
    (hmembers : ∀ m ∈ members, c.Writes m.name m.value ∨ m.name ∉ keys ∧ Written .value m.value)
    (honce : ∀ key ∈ keys, (members.map Member.name).count key ≤ 1) :
    ofJson? text = .ok (c.adoptAll (members.map Member.name) {}) := by
  have hputs : List.Forall₂ (Member.Puts fields) members (members.map fun m => c.adopt m.name) :=
    List.forall₂_map_right_iff.2 (List.forall₂_same.2 fun m hm => puts_adopt (hmembers m hm))
  refine Json.readAll_of_ok after ?_
  rw [htext, Json.readRecord_object hputs fun field hfield =>
    honce _ (List.mem_map_of_mem hfield), List.foldl_map, ← foldl_adopt, List.foldl_map]

/-! ## The written settings -/

theorem toList_toJson (c : Config) :
    c.toJson.toList = Json.objectText noSpace
      [.plain "microphone" (by decide) ('"' :: (c.microphone.name.toList ++ ['"'])),
        .plain "scroll_frame_ms" (by decide) (Text.decimalNat c.scrollFrameMs.toNat).toList,
        .plain "enable_os_access" (by decide) (Text.truth c.enableOsAccess).toList] [] := by
  obtain ⟨m, ms, b⟩ := c
  simp only [toJson, Json.writeObject, List.map_cons, List.map_nil, Text.joined,
    String.toList_append, Json.writeString, String.toList_ofList, List.append_assoc]
  cases m <;> rfl

/-- The name of a mode stands for itself in a string. -/
theorem spells_name (m : Microphone) : Spells true m.name.toList m.name.toList :=
  Json.spells_self (by cases m <;> decide)

/-- Settings that are written are read as they were, whatever their microphone, the time of their
    frames up to the greatest of 64 bits, and their access. And settings are read of every object
    with values of `c`, which are members of any number, in any order, with any spelling of the
    keys and any white space, among members with other keys and any values of JSON, as long as no
    field comes twice: a field that is there is as in `c`, and any other one is the default. -/
theorem config_round_trip (c : Config) :
    ofJson? c.toJson = .ok c ∧
    ∀ (text : String) (members : List Member) (outer inner after : Space),
      text.toList = outer ++ Json.objectText inner members after →
      (∀ m ∈ members, c.Writes m.name m.value ∨ m.name ∉ keys ∧ Written .value m.value) →
      (∀ key ∈ keys, (members.map Member.name).count key ≤ 1) →
      ofJson? text = .ok
        { microphone := if "microphone" ∈ members.map Member.name then c.microphone else .live
          scrollFrameMs :=
            if "scroll_frame_ms" ∈ members.map Member.name then c.scrollFrameMs else 200
          enableOsAccess :=
            if "enable_os_access" ∈ members.map Member.name then c.enableOsAccess else true } := by
  refine ⟨?_, fun text members outer inner after htext hmembers honce =>
    ofJson?_object htext hmembers honce⟩
  -- The encoding is an object of all three fields, so nothing is left to the defaults.
  have hread := @ofJson?_object c c.toJson _ noSpace noSpace noSpace c.toList_toJson
    (by
      simp only [List.forall_mem_cons]
      exact ⟨.inl (.microphone (spells_name c.microphone)), .inl .scrollFrameMs,
        .inl .enableOsAccess, fun _ h => absurd h List.not_mem_nil⟩)
    (by
      change ∀ key ∈ keys,
        ["microphone", "scroll_frame_ms", "enable_os_access"].count key ≤ 1
      decide)
  exact hread

/-- Two of the fields in another order, one with an escape in its key, and a member of another key;
    the time of the frames is the default. -/
theorem config_round_trip_partial :
    ofJson? "\x7b \"enable_os_access\":false,\"extra\":[null, \x7b\x7d],\"micro\\u0070hone\":\"stub\"\x7d\n" =
      .ok ⟨.stub, 200, false⟩ := by
  have hkey : Spells true "microphone".toList "micro\\u0070hone".toList :=
    .plain (by decide) (by decide) (by decide) <| .plain (by decide) (by decide) (by decide) <|
    .plain (by decide) (by decide) (by decide) <| .plain (by decide) (by decide) (by decide) <|
    .plain (by decide) (by decide) (by decide) <|
    .code (n := 0x70) (by decide) (by decide) (Json.spells_self (by decide))
  have hextra : Written .value "[null, \x7b\x7d]".toList :=
    .array (.items noSpace.2 .nullWord noSpace.2
      (.item (by decide : Json.IsSpace [' ']) (.emptyObject noSpace.2) noSpace.2))
  refine (config_round_trip ⟨.stub, 18446744073709551615, false⟩).2 _
    [.plain "enable_os_access" (by decide) "false".toList,
      .plain "extra" (by decide) "[null, \x7b\x7d]".toList,
      ⟨"microphone", "micro\\u0070hone".toList, hkey, '"' :: (Microphone.stub.name.toList ++ ['"']),
        noSpace, noSpace, noSpace, noSpace⟩]
    noSpace ⟨[' '], by decide⟩ ⟨['\n'], by decide⟩ (by rfl) ?_ ?_
  · simp only [List.forall_mem_cons]
    exact ⟨.inl .enableOsAccess, .inr ⟨by decide, hextra⟩, .inl (.microphone (spells_name .stub)),
      fun _ h => absurd h List.not_mem_nil⟩
  · change ∀ key ∈ keys, ["enable_os_access", "extra", "microphone"].count key ≤ 1
    decide

end LedBoard.Config
