import LedBoard.Proofs.Json.Skipping
import Mathlib.Data.List.Forall2

/-!
# Reading records

A record is read from an object or from an array. The members of an object are written in the
grammar of JSON (`Member`); those with the key of a field have a value that the field reads, and
the values of the others are skipped. So what is read is the record that comes of putting the
values of the fields into the defaults, one after the other; the rest leaves no trace
(`readRecord_object`). In an array the fields have their values in their order, and the last ones
may be missing (`readRecord_array`).

One member or one element is a step (`readMembers_step`, `readElements_step`); the rest is by
induction over them.
-/

namespace LedBoard.Json

/-- White space. -/
abbrev Space := { s : List Char // IsSpace s }

/-- The text is read as the value `a`, whatever white space stands before it, and nothing behind it
    is taken. -/
def Reads {α : Type} (read : Reader α) (v : List Char) (a : α) : Prop :=
  ∀ (space : Space) (rest : List Char), Ends rest → read (space ++ (v ++ rest)) = .ok (a, rest)

/-- A member of an object as it is written: the name of its key and how it is spelled, the text of
    its value, and the white space around the key and around the value. -/
structure Member where
  name : String
  key : List Char
  spells : Spells true name.toList key
  value : List Char
  before : Space
  behind : Space
  between : Space
  after : Space

/-- No white space. -/
def noSpace : Space := ⟨[], fun _ h => absurd h List.not_mem_nil⟩

/-- A member that is written without white space, whose key stands for itself. -/
def Member.plain (name : String) (h : IsPlain name.toList) (value : List Char) : Member :=
  ⟨name, name.toList, spells_self h, value, noSpace, noSpace, noSpace, noSpace⟩

/-- The text of a member, with what stands behind it. -/
def Member.text (m : Member) (rest : List Char) : List Char :=
  m.before ++ '"' :: (m.key ++ '"' :: (m.behind ++ ':' :: (m.between ++
    (m.value ++ (m.after ++ rest)))))

/-- An element of an array as it is written: the text of its value and the white space around. -/
structure Element where
  value : List Char
  before : Space
  after : Space

/-- The text of an element, with what stands behind it. -/
def Element.text (e : Element) (rest : List Char) : List Char :=
  e.before ++ (e.value ++ (e.after ++ rest))

/-- The texts, separated by commas, with what stands behind them. A comma stands before each of
    them unless it is the `first` one. -/
def separated {α : Type} (text : α → List Char → List Char) (rest : List Char) :
    (first : Bool) → List α → List Char
  | _, [] => rest
  | true, a :: as => text a (separated text rest false as)
  | false, a :: as => ',' :: text a (separated text rest false as)

/-- An object with the members; white space stands behind its brace. -/
def objectText (inner : Space) (members : List Member) (rest : List Char) : List Char :=
  '\x7b' :: (inner ++ separated Member.text ('\x7d' :: rest) true members)

/-- An array of the elements; white space stands behind its bracket. -/
def arrayText (inner : Space) (elements : List Element) (rest : List Char) : List Char :=
  '[' :: (inner ++ separated Element.text (']' :: rest) true elements)

variable {ρ : Type} {fields : List (Field ρ)}

/-- What a member puts into a record: the value of the field that has its key, which the field must
    read; or nothing, if no field has its key and its value is a value of JSON. -/
inductive Member.Puts (fields : List (Field ρ)) (m : Member) : (ρ → ρ) → Prop
  | known {field : Field ρ} {put : ρ → ρ} (hfind : fields.find? (·.key = m.name) = some field)
      (hread : Reads field.read m.value put) : Puts fields m put
  | unknown (hfind : fields.find? (·.key = m.name) = none) (hvalue : Written .value m.value) :
      Puts fields m id

theorem Reads.field {α : Type} {read : Reader α} {v : List Char} {a : α} (h : Reads read v a)
    (key : String) (put : α → ρ → ρ) : Reads (Field.of key read put).read v (put a) := by
  intro space rest hrest
  change (read (space ++ (v ++ rest))).map _ = _
  rw [h space rest hrest]
  rfl

/-! ## One step -/

theorem ok_bind {α β : Type} (a : α) (f : α → Except Problem β) : (Except.ok a >>= f) = f a := rfl

theorem readColon_eq {space : List Char} (h : IsSpace space) (s : List Char) :
    readColon (space ++ ':' :: s) = .ok s := by
  rw [readColon, skipBlanks_eq h (by rfl)]
  rfl

/-- What is behind the key of a member decides how the members are read on. -/
def readBehindKey (fields : List (Field ρ)) (fuel : Nat) (seen : List String) (record : ρ)
    (name : String) (s : List Char) : Except Problem (ρ × List Char) :=
  match fields.find? (·.key = name) with
  | some field =>
    if seen.contains field.key then .error (.duplicateField field.key)
    else do
      let (put, rest) ← field.read s
      readMembers fields fuel false (field.key :: seen) (put record) rest
  | none => do
    let rest ← skipValue s
    readMembers fields fuel false seen record rest

/-- The value of a member that a field has the name of is read by the field and put into the record,
    if it is the first of this name. -/
theorem readBehindKey_known {fuel : Nat} {seen : List String} {record : ρ} {name : String}
    {field : Field ρ} {put : ρ → ρ} {s rest : List Char}
    (hfind : fields.find? (·.key = name) = some field) (hnew : field.key ∉ seen)
    (hread : field.read s = .ok (put, rest)) :
    readBehindKey fields fuel seen record name s =
      readMembers fields fuel false (field.key :: seen) (put record) rest := by
  have hnew : seen.contains field.key = false := by simpa using hnew
  simp only [readBehindKey, hfind, hnew, hread, ok_bind, Bool.false_eq_true, if_false]

/-- The value of a member that no field has the name of is skipped, and the record stays. -/
theorem readBehindKey_unknown {fuel : Nat} {seen : List String} {record : ρ} {name : String}
    {s rest : List Char} (hfind : fields.find? (·.key = name) = none)
    (hskip : skipValue s = .ok rest) :
    readBehindKey fields fuel seen record name s =
      readMembers fields fuel false seen record rest := by
  simp only [readBehindKey, hfind, hskip, ok_bind]

/-- A member is read from its key on. -/
theorem readMembers_step (fuel : Nat) (first : Bool) (seen : List String) (record : ρ)
    (space : Space) (m : Member) (ms : List Member) (rest : List Char) :
    readMembers fields (fuel + 1) first seen record
        (space ++ separated Member.text rest first (m :: ms)) =
      readBehindKey fields fuel seen record m.name
        (m.between ++ (m.value ++ (m.after ++ separated Member.text rest false ms))) := by
  generalize hmore : separated Member.text rest false ms = more
  obtain ⟨_, hread⟩ := readString_spells m.spells
    (m.behind ++ ':' :: (m.between ++ (m.value ++ (m.after ++ more))))
  have hcolon := readColon_eq m.behind.2 (m.between ++ (m.value ++ (m.after ++ more)))
  cases first with
  | true =>
    rw [separated, hmore, Member.text, readMembers, skipBlanks_append space.2,
      skipBlanks_eq m.before.2 (by rfl)]
    simp only [if_true, pure_bind, hread, ok_bind, String.ofList_toList, hcolon]
    rfl
  | false =>
    rw [separated, hmore, Member.text, readMembers, skipBlanks_eq space.2 (by rfl)]
    have hquote : isBlank '"' = false := by rfl
    simp only [if_false, Bool.false_eq_true, skipBlanks_eq m.before.2 hquote, pure_bind, hread,
      ok_bind, String.ofList_toList, hcolon]
    rfl

theorem readMembers_end (fuel : Nat) (first : Bool) (seen : List String) (record : ρ)
    (space : Space) (rest : List Char) :
    readMembers fields (fuel + 1) first seen record (space ++ '\x7d' :: rest) =
      .ok (record, rest) := by
  rw [readMembers, skipBlanks_eq space.2 (by rfl)]
  rfl

/-! ## Objects -/

theorem ends_separated {α : Type} (text : α → List Char → List Char) {rest : List Char}
    (h : Ends rest) (as : List α) : Ends (separated text rest false as) := by
  cases as with
  | nil => exact h
  | cons a as => exact ends_cons (by decide) _

/-- Members are read one after the other, each into the record that the ones before it have left.
    The keys that have come already and those that come hold none of a field twice. -/
theorem readMembers_separated {ms : List Member} {puts : List (ρ → ρ)}
    (h : List.Forall₂ (Member.Puts fields) ms puts) {fuel : Nat} (hfuel : ms.length < fuel)
    (first : Bool) {seen : List String}
    (hseen : ∀ field ∈ fields, (seen ++ ms.map Member.name).count field.key ≤ 1) (record : ρ)
    (space : Space) (rest : List Char) :
    readMembers fields fuel first seen record
        (space ++ separated Member.text ('\x7d' :: rest) first ms) =
      .ok (puts.foldl (fun record put => put record) record, rest) := by
  -- The names seen and those to come stay the same together: each member moves its own over.
  induction h generalizing fuel first seen record space with
  | nil =>
    obtain ⟨fuel, rfl⟩ := Nat.exists_eq_succ_of_ne_zero (Nat.pos_iff_ne_zero.1 hfuel)
    have hseparated : separated Member.text ('\x7d' :: rest) first [] = '\x7d' :: rest := by
      cases first <;> rfl
    rw [hseparated]
    exact readMembers_end fuel first seen record space rest
  | @cons m put ms puts hm _ ih =>
    obtain ⟨fuel, rfl⟩ := Nat.exists_eq_succ_of_ne_zero (Nat.ne_zero_of_lt hfuel)
    have hfuel : ms.length < fuel := Nat.lt_of_succ_lt_succ hfuel
    have hends : Ends (m.after ++ separated Member.text ('\x7d' :: rest) false ms) :=
      ends_append m.after.2 (ends_separated _ (ends_cons (by decide) rest) ms)
    rw [readMembers_step]
    cases hm with
    | @known field put hfind hread =>
      have hkey : field.key = m.name := by simpa using List.find?_some hfind
      have hcount : ∀ f ∈ fields, (field.key :: seen ++ ms.map Member.name).count f.key ≤ 1 := by
        intro f hf
        have := hseen f hf
        rwa [List.map_cons, ← hkey, List.perm_middle.count_eq] at this
      have hnew : field.key ∉ seen := by
        have := hcount field (List.mem_of_find?_eq_some hfind)
        rw [List.cons_append, List.count_cons_self, List.count_append] at this
        exact List.count_eq_zero.1 (by omega)
      rw [readBehindKey_known hfind hnew (hread m.between _ hends)]
      exact ih hfuel false hcount (put record) m.after
    | unknown hfind hvalue =>
      have hcount : ∀ f ∈ fields, (seen ++ ms.map Member.name).count f.key ≤ 1 := by
        intro f hf
        refine Nat.le_trans ?_ (hseen f hf)
        exact (List.Sublist.append_left (List.sublist_cons_self _ _) seen).count_le _
      rw [readBehindKey_unknown hfind (skipValue_written m.between.2 hvalue hends)]
      exact ih hfuel false hcount record m.after

/-- There are no more members than characters, so the length of the text is fuel enough for them. -/
theorem length_le_separated (ms : List Member) (first : Bool) (rest : List Char) :
    ms.length ≤ (separated Member.text rest first ms).length := by
  induction ms generalizing first with
  | nil => exact Nat.zero_le _
  | cons m ms ih =>
    have := ih false
    cases first <;>
    · simp only [separated, Member.text, List.length_append, List.length_cons]
      omega

/-- A record is read from an object by putting what its members have for the fields into the
    defaults. -/
theorem readRecord_object {ms : List Member} {puts : List (ρ → ρ)}
    (h : List.Forall₂ (Member.Puts fields) ms puts)
    (honce : ∀ field ∈ fields, (ms.map Member.name).count field.key ≤ 1) (expected : String)
    (defaults : ρ) (outer inner : Space) (rest : List Char) :
    readRecord expected fields defaults (outer ++ objectText inner ms rest) =
      .ok (puts.foldl (fun record put => put record) defaults, rest) := by
  rw [readRecord, objectText, skipBlanks_eq outer.2 (by rfl)]
  refine readMembers_separated h ?_ true honce defaults inner rest
  have := length_le_separated ms true ('\x7d' :: rest)
  rw [List.length_append]
  omega

/-! ## Arrays -/

/-- The elements are values of the first fields in their order; what they put into a record. No
    value starts with white space, or with a bracket that closes the array. -/
inductive Fills : List (Field ρ) → List Element → List (ρ → ρ) → Prop
  | nil {fields : List (Field ρ)} : Fills fields [] []
  | cons {field : Field ρ} {fields : List (Field ρ)} {e : Element} {es : List Element}
      {put : ρ → ρ} {puts : List (ρ → ρ)} (hread : Reads field.read e.value put)
      (hstart : ∃ c r, e.value = c :: r ∧ isBlank c = false ∧ c ≠ ']')
      (h : Fills fields es puts) : Fills (field :: fields) (e :: es) (put :: puts)

/-- Elements for all of some fields, and then elements for the fields behind them. -/
theorem Fills.append {more : List (Field ρ)} {es es' : List Element} {puts puts' : List (ρ → ρ)}
    (h : Fills fields es puts) (hall : es.length = fields.length) (h' : Fills more es' puts') :
    Fills (fields ++ more) (es ++ es') (puts ++ puts') := by
  induction h with
  | nil =>
    obtain rfl := List.length_eq_zero_iff.1 hall.symm
    exact h'
  | cons hread hstart _ ih => exact .cons hread hstart (ih (Nat.succ.inj hall))

/-- An array ends at its closing bracket, with the record as it is, also before all fields have
    come. -/
theorem readElements_end (fields : List (Field ρ)) (first : Bool) (record : ρ) (space : Space)
    (rest : List Char) :
    readElements fields first record (space ++ ']' :: rest) = .ok (record, rest) := by
  cases fields <;>
  · rw [readElements, skipBlanks_eq space.2 (by rfl)]
    rfl

/-- The next element is read by the next field, after a comma unless it is the first one. -/
theorem readElements_step {field : Field ρ} {e : Element} {put : ρ → ρ}
    (hread : Reads field.read e.value put)
    (hstart : ∃ c r, e.value = c :: r ∧ isBlank c = false ∧ c ≠ ']') (fields : List (Field ρ))
    (first : Bool) (record : ρ) (space : Space) (es : List Element) (rest : List Char)
    (hrest : Ends rest) :
    readElements (field :: fields) first record
        (space ++ separated Element.text rest first (e :: es)) =
      readElements fields false (put record)
        (e.after ++ separated Element.text rest false es) := by
  have hread := hread noSpace _
    (ends_append e.after.2 (ends_separated Element.text hrest es))
  obtain ⟨c, r, hvalue, hblank, hc⟩ := hstart
  rw [hvalue] at hread
  change field.read (c :: (r ++ (e.after ++ _))) = _ at hread
  have hskip : ∀ s, skipBlanks (e.before ++ (c :: r ++ s)) = c :: (r ++ s) :=
    fun s => skipBlanks_eq e.before.2 hblank _
  -- A comma stands before the element, unless it is the first one.
  cases first with
  | true =>
    rw [separated, Element.text, hvalue, readElements, skipBlanks_append space.2, hskip]
    simp only [if_true, pure_bind, hread, ok_bind]
  | false =>
    rw [separated, Element.text, hvalue, readElements, skipBlanks_eq space.2 (by rfl)]
    split
    next heq => cases heq
    next heq => cases heq
    next heq =>
      cases heq
      simp only [Bool.false_eq_true, if_false, if_true, hskip]
      split
      next heq => cases heq
      next heq => exact absurd (List.cons.inj heq).1 hc
      next => rw [pure_bind, hread]; rfl

/-- Elements are read one after the other, each into the record that the ones before it have
    left. -/
theorem readElements_separated {es : List Element} {puts : List (ρ → ρ)}
    (h : Fills fields es puts) (first : Bool) (record : ρ) (space : Space) (rest : List Char) :
    readElements fields first record
        (space ++ separated Element.text (']' :: rest) first es) =
      .ok (puts.foldl (fun record put => put record) record, rest) := by
  induction h generalizing first record space with
  | nil =>
    have hseparated : separated Element.text (']' :: rest) first [] = ']' :: rest := by
      cases first <;> rfl
    rw [hseparated]
    exact readElements_end _ first record space rest
  | @cons field fields e es put puts hread hstart _ ih =>
    rw [readElements_step hread hstart _ _ _ _ _ _ (ends_cons (by decide) rest)]
    exact ih false (put record) e.after

/-- A record is read from an array by putting its elements into the defaults. -/
theorem readRecord_array {es : List Element} {puts : List (ρ → ρ)} (h : Fills fields es puts)
    (expected : String) (defaults : ρ) (outer inner : Space) (rest : List Char) :
    readRecord expected fields defaults (outer ++ arrayText inner es rest) =
      .ok (puts.foldl (fun record put => put record) defaults, rest) := by
  rw [readRecord, arrayText, skipBlanks_eq outer.2 (by rfl)]
  exact readElements_separated h true defaults inner rest

/-! ## Texts -/

/-- White space may stand behind the value of a text. -/
theorem readAll_of_ok {α : Type} {read : Reader α} {text : String} {a : α} (space : Space)
    (h : read text.toList = .ok (a, space)) : readAll read text = .ok a := by
  have hskip : skipBlanks (space : List Char) = [] :=
    List.dropWhile_eq_nil_iff.2 space.2
  rw [readAll, h, ok_bind]
  simp only [hskip]
  rfl

end LedBoard.Json
