import LedBoard.Devices
import LedBoard.Proofs.Sensors.Literals
import Mathlib.Data.List.Nodup

/-!
# Saturation of readings

In the text of a snapshot an integer literal may be given for a reading, however long it is. Then
the reading is the integer clamped to 32 bits, and this is what the functions of the board answer.

The rest of the text can be anything that a snapshot may be (`Slot`): an object or an array, with
values of the other fields, and with members of any other keys. Nothing in it touches the reading:
every field puts its own value and keeps the other ones (`keeps_reading`), and the literal is read
in the same way wherever it stands, since the readers are local.

* `ofJson?_slot`: what is read of a snapshot with a value for the reading;
* `reading_saturates`: the statements together.
-/

namespace LedBoard

/-- The questions that are answered with a reading. -/
def Key.readings : List Key := [.accX, .accY, .accZ, .micVol]

namespace Snapshot

open Json (Member Element Space Written Reads Fills)

/-- The answer to a question at the first look. -/
def answer (key : Key) (s : Snapshot) : Int32 := (Sensors.read key { snapshot := s }).1

/-- The snapshot with another reading. -/
def withReading (key : Key) (n : Int32) (s : Snapshot) : Snapshot :=
  match key with
  | .accX => { s with accX := n }
  | .accY => { s with accY := n }
  | .accZ => { s with accZ := n }
  | .micVol => { s with micVol := n }
  | _ => s

/-! ## Fields -/

section Fields

variable {key : Key} (hkey : key ∈ Key.readings)

include hkey

theorem answer_withReading (n : Int32) (s : Snapshot) : answer key (withReading key n s) = n := by
  simp only [Key.readings, List.mem_cons, List.not_mem_nil, or_false] at hkey
  obtain rfl | rfl | rfl | rfl := hkey <;> rfl

theorem read_eq_answer (s : Sensors) : (s.read key).1 = answer key s.snapshot := by
  simp only [Key.readings, List.mem_cons, List.not_mem_nil, or_false] at hkey
  obtain rfl | rfl | rfl | rfl := hkey <;> rfl

/-- The field of a reading. -/
theorem field_eq {field : Json.Field Snapshot} (hfield : field ∈ fields)
    (hname : field.key = key.name) :
    field = .of key.name readReading (withReading key) := by
  simp only [Key.readings, List.mem_cons, List.not_mem_nil, or_false] at hkey
  simp only [fields, List.mem_cons, List.not_mem_nil, or_false] at hfield
  obtain rfl | rfl | rfl | rfl := hkey <;>
  obtain rfl | rfl | rfl | rfl | rfl | rfl | rfl | rfl := hfield <;>
  first
    | rfl
    | exact absurd hname (by decide)

theorem find?_reading :
    fields.find? (·.key = key.name) = some (.of key.name readReading (withReading key)) := by
  simp only [Key.readings, List.mem_cons, List.not_mem_nil, or_false] at hkey
  obtain rfl | rfl | rfl | rfl := hkey <;> rfl

/-- Every other field keeps the reading. -/
theorem keeps_reading {field : Json.Field Snapshot} (hfield : field ∈ fields)
    (hname : field.key ≠ key.name) {v r : List Char} {put : Snapshot → Snapshot}
    (h : field.read v = .ok (put, r)) (s : Snapshot) : answer key (put s) = answer key s := by
  simp only [Key.readings, List.mem_cons, List.not_mem_nil, or_false] at hkey
  simp only [fields, List.mem_cons, List.not_mem_nil, or_false] at hfield
  obtain rfl | rfl | rfl | rfl | rfl | rfl | rfl | rfl := hfield <;>
  · obtain ⟨⟨a, _⟩, -, hput⟩ := Json.map_eq_ok h
    cases hput
    obtain rfl | rfl | rfl | rfl := hkey <;>
    first
      | rfl
      | exact absurd rfl hname

end Fields

theorem local_readReading : Json.Local readReading := Json.local_readFloat.map reading

/-- All values of a snapshot are taken as a whole. -/
theorem local_fields : ∀ field ∈ fields, Json.Local field.read := by
  simp only [fields, List.forall_mem_cons]
  exact ⟨local_readReading.field _ _, local_readReading.field _ _, local_readReading.field _ _,
    local_readReading.field _ _, Json.local_readBool.field _ _, Json.local_readBool.field _ _,
    Json.local_readUInt32.field _ _, Json.local_readUInt32.field _ _,
    fun _ h => absurd h List.not_mem_nil⟩

/-! ## Members and elements -/

/-- The field takes the text as a whole. -/
def Accepts (field : Json.Field Snapshot) (v : List Char) : Prop :=
  ∃ put, field.read v = .ok (put, [])

/-- The member has a value for the field with its key, or any value of JSON if there is none. -/
structure ValidMember (m : Member) : Prop where
  known : ∀ field ∈ fields, field.key = m.name → Accepts field m.value
  unknown : (∀ field ∈ fields, field.key ≠ m.name) → Written .value m.value

/-- The element is a value for the field, and white space before it is not part of the value. -/
structure ValidElement (field : Json.Field Snapshot) (e : Element) : Prop where
  accepts : Accepts field e.value
  start : ∀ c ∈ e.value.head?, Json.isBlank c = false

/-- Puts that keep the reading. -/
def Keep (key : Key) (puts : List (Snapshot → Snapshot)) : Prop :=
  ∀ s, answer key (puts.foldl (fun s put => put s) s) = answer key s

theorem Keep.cons {key : Key} {put : Snapshot → Snapshot} {puts : List (Snapshot → Snapshot)}
    (h : ∀ s, answer key (put s) = answer key s) (hputs : Keep key puts) :
    Keep key (put :: puts) :=
  fun s => (hputs (put s)).trans (h s)

section Parts

variable {key : Key} (hkey : key ∈ Key.readings)

include hkey

/-- A member of another name than the reading's keeps the reading, whether a field has its name or
    it is skipped. -/
theorem ValidMember.puts {m : Member} (h : ValidMember m) (hname : m.name ≠ key.name) :
    ∃ put, m.Puts fields put ∧ ∀ s, answer key (put s) = answer key s := by
  cases hfind : fields.find? (·.key = m.name) with
  | some field =>
    have hfield : field ∈ fields := List.mem_of_find?_eq_some hfind
    have hm : field.key = m.name := by simpa using List.find?_some hfind
    obtain ⟨put, hread⟩ := h.known field hfield hm
    exact ⟨put, .known hfind ((local_fields field hfield).reads hread),
      keeps_reading hkey hfield (hm ▸ hname) hread⟩
  | none =>
    refine ⟨id, .unknown hfind (h.unknown fun field hfield => ?_), fun s => rfl⟩
    simpa using List.find?_eq_none.1 hfind field hfield

/-- Members that keep the reading one by one keep it together. -/
theorem exists_puts {ms : List Member} (h : ∀ m ∈ ms, ValidMember m)
    (hname : key.name ∉ ms.map Member.name) :
    ∃ puts, List.Forall₂ (Member.Puts fields) ms puts ∧ Keep key puts := by
  induction ms with
  | nil => exact ⟨[], .nil, fun s => rfl⟩
  | cons m ms ih =>
    obtain ⟨hm, hms⟩ := List.forall_mem_cons.1 h
    obtain ⟨hne, hnames⟩ := not_or.1 (mt List.mem_cons.2 hname)
    obtain ⟨put, hput, hkeep⟩ := hm.puts hkey (Ne.symm hne)
    obtain ⟨puts, hputs, hkeeps⟩ := ih hms hnames
    exact ⟨put :: puts, .cons hput hputs, hkeeps.cons hkeep⟩

/-- Elements for fields that keep the reading. -/
theorem exists_fills {some : List (Json.Field Snapshot)} {es : List Element}
    (hsome : ∀ field ∈ some, field ∈ fields ∧ field.key ≠ key.name)
    (hlength : es.length ≤ some.length) (h : ∀ p ∈ some.zip es, ValidElement p.1 p.2) :
    ∃ puts, Fills some es puts ∧ Keep key puts := by
  induction es generalizing some with
  | nil => exact ⟨[], .nil, fun s => rfl⟩
  | cons e es ih =>
    cases some with
    | nil => cases hlength
    | cons field some =>
      obtain ⟨hfield, hrest⟩ := List.forall_mem_cons.1 hsome
      obtain ⟨he, hes⟩ := List.forall_mem_cons.1 h
      obtain ⟨put, hread⟩ := he.accepts
      have hlocal := local_fields field hfield.1
      obtain ⟨puts, hputs, hkeeps⟩ := ih hrest (Nat.le_of_succ_le_succ hlength) hes
      exact ⟨put :: puts, .cons (hlocal.reads hread) (hlocal.exists_cons hread he.start) hputs,
        hkeeps.cons (keeps_reading hkey hfield.1 hfield.2 hread)⟩

end Parts

/-! ## Texts -/

/-- Texts of a snapshot with a place for the reading: an object with a member that has its key, or
    an array with an element where its field stands. -/
inductive Slot (key : Key) : (List Char → List Char) → Prop
  | object {before after : List Member} {slot : Member} {outer inner last : Space}
      (hname : slot.name = key.name) (hvalid : ∀ m ∈ before ++ after, ValidMember m)
      (honce : ∀ field ∈ fields,
        ((before ++ slot :: after).map Member.name).count field.key ≤ 1) :
      Slot key fun v =>
        outer ++ Json.objectText inner (before ++ { slot with value := v } :: after) last
  | array {earlier later : List (Json.Field Snapshot)} {field : Json.Field Snapshot}
      {before after : List Element} {slot : Element} {outer inner last : Space}
      (hfields : fields = earlier ++ field :: later) (hname : field.key = key.name)
      (hall : before.length = earlier.length)
      (hbefore : ∀ p ∈ earlier.zip before, ValidElement p.1 p.2)
      (hlength : after.length ≤ later.length)
      (hafter : ∀ p ∈ later.zip after, ValidElement p.1 p.2) :
      Slot key fun v =>
        outer ++ Json.arrayText inner (before ++ { slot with value := v } :: after) last

/-- Values around a value for the reading: what is put before it and behind it does not touch
    it. -/
theorem answer_foldl {key : Key} (hkey : key ∈ Key.readings)
    {puts puts' : List (Snapshot → Snapshot)} (hputs' : Keep key puts') (n : Int32) :
    answer key ((puts ++ withReading key n :: puts').foldl (fun s put => put s) {}) = n := by
  rw [List.foldl_append, List.foldl_cons, hputs', answer_withReading hkey]

/-- A snapshot with a value for the reading has this reading. -/
theorem ofJson?_slot {key : Key} (hkey : key ∈ Key.readings) {text : List Char → List Char}
    (h : Slot key text) {v : List Char} {n : Int32} (hread : readReading v = .ok (n, []))
    (hblank : ∀ c ∈ v.head?, Json.isBlank c = false) :
    ∃ s, ofJson? (String.ofList (text v)) = .ok s ∧ answer key s = n := by
  have hvalue : Reads (Json.Field.of key.name readReading (withReading key)).read v
      (withReading key n) := (local_readReading.reads hread).field key.name (withReading key)
  cases h with
  | @object before after slot outer inner last hname hvalid honce =>
    -- The key comes once, so the members around the slot are for other fields.
    have hcount := honce _ (List.mem_of_find?_eq_some (find?_reading hkey))
    change List.count key.name _ ≤ 1 at hcount
    rw [List.map_append, List.map_cons, hname, List.count_append, List.count_cons_self] at hcount
    obtain ⟨hbefore, hafter⟩ := List.forall_mem_append.1 hvalid
    obtain ⟨puts, hputs, -⟩ := exists_puts hkey hbefore (List.count_eq_zero.1 (by omega))
    obtain ⟨puts', hputs', hkeep⟩ := exists_puts hkey hafter (List.count_eq_zero.1 (by omega))
    have hslot : Member.Puts fields { slot with value := v } (withReading key n) :=
      .known (by rw [hname]; exact find?_reading hkey) hvalue
    have hmembers : List.Forall₂ (Member.Puts fields) (before ++ { slot with value := v } :: after)
        (puts ++ withReading key n :: puts') :=
      List.rel_append hputs (.cons hslot hputs')
    refine ⟨(puts ++ withReading key n :: puts').foldl (fun s put => put s) {},
      Json.readAll_of_ok last ?_, answer_foldl hkey hkeep n⟩
    rw [String.toList_ofList]
    refine Json.readRecord_object hmembers (fun field hfield => ?_) _ {} outer inner last
    have honce := honce field hfield
    rwa [List.map_append, List.map_cons] at honce ⊢
  | @array earlier later field before after slot outer inner last hfields hname hall hbefore hlength
      hafter =>
    -- No two fields have one key, so the elements around the slot are for other fields.
    have hdistinct : (fields.map (·.key)).Nodup := by decide
    rw [hfields, List.map_append, List.map_cons, List.nodup_middle, List.nodup_cons, hname,
      ← List.map_append] at hdistinct
    have hother : ∀ f ∈ earlier ++ later, f ∈ fields ∧ f.key ≠ key.name := by
      refine fun f hf => ⟨?_, fun heq => hdistinct.1 (heq ▸ List.mem_map_of_mem hf)⟩
      rw [hfields]
      exact List.perm_middle.mem_iff.2 (List.mem_cons_of_mem field hf)
    obtain ⟨hearlier, hlater⟩ := List.forall_mem_append.1 hother
    obtain ⟨puts, hputs, -⟩ := exists_fills hkey hearlier (Nat.le_of_eq hall) hbefore
    obtain ⟨puts', hputs', hkeep⟩ := exists_fills hkey hlater hlength hafter
    have hfield : field = .of key.name readReading (withReading key) :=
      field_eq hkey (hfields ▸ List.mem_append_right earlier List.mem_cons_self) hname
    have hslot : Fills (field :: later) ({ slot with value := v } :: after)
        (withReading key n :: puts') :=
      .cons (hfield ▸ hvalue) (local_readReading.exists_cons hread hblank) hputs'
    refine ⟨(puts ++ withReading key n :: puts').foldl (fun s put => put s) {},
      Json.readAll_of_ok last ?_, answer_foldl hkey hkeep n⟩
    rw [String.toList_ofList]
    exact Json.readRecord_array (hfields ▸ hputs.append hall hslot) _ {} outer inner last

end Snapshot

/-! ## The functions of the board -/

/-- The function of the module with this name answers the question. -/
inductive Devices.Tells : Key → Module Host → String → Prop
  | accX : Tells .accX accelerometer "get_x"
  | accY : Tells .accY accelerometer "get_y"
  | accZ : Tells .accZ accelerometer "get_z"
  | micVol : Tells .micVol microphone "sound_level"

namespace Sensors

open Devices (Tells)
open Json (IsInteger)
open Snapshot (Slot)

/-- The function for a reading answers with the reading as an integer, and leaves the host as it
    is; the sound level must be live for that. -/
theorem exists_tells {key : Key} (hkey : key ∈ Key.readings) :
    ∃ m name f, Tells key m name ∧ m ∈ Devices.all ∧ m.function? name = some f ∧
      ∀ h : Host, (key = .micVol → h.microphone = .live) →
        (f []).run h = .ok (.ok (.int (Int64.ofInt (h.sensors.read key).1.toInt)), h) := by
  simp only [Key.readings, List.mem_cons, List.not_mem_nil, or_false] at hkey
  obtain rfl | rfl | rfl | rfl := hkey
  · exact ⟨_, _, _, .accX, by simp [Devices.all], rfl, fun h _ => rfl⟩
  · exact ⟨_, _, _, .accY, by simp [Devices.all], rfl, fun h _ => rfl⟩
  · exact ⟨_, _, _, .accZ, by simp [Devices.all], rfl, fun h _ => rfl⟩
  · refine ⟨_, _, _, .micVol, by simp [Devices.all], rfl, fun h hlive => ?_⟩
    have hlevel : h.soundLevel = h.read .micVol := by
      rw [Host.soundLevel, hlive rfl]
    change Except.ok (Except.ok (Value.int (Int64.ofInt h.soundLevel.1.toInt)), h.soundLevel.2) = _
    rw [hlevel]
    rfl

/-- A snapshot with an integer literal for the reading is taken, and the reading is the integer
    clamped. -/
theorem updateJson_slot {key : Key} (hkey : key ∈ Key.readings) {text : List Char → List Char}
    (hslot : Slot key text) {n : Int} {literal : List Char} (hliteral : IsInteger n literal)
    {x : Binary64.Finite} (hx : Json.readFloat literal = .ok (x, [])) (s : Sensors) :
    ∃ s', s.updateJson (String.ofList (text literal)) = .ok s' ∧
      (s'.read key).1 = Snapshot.clamp n := by
  have hread : Snapshot.readReading literal = .ok (Snapshot.clamp n, []) := by
    rw [Snapshot.readReading, hx, ← Snapshot.reading_of_isInteger hliteral hx]
    rfl
  obtain ⟨snapshot, hparse, hanswer⟩ := Snapshot.ofJson?_slot hkey hslot hread hliteral.not_blank
  refine ⟨s.update snapshot, by rw [updateJson, hparse]; rfl, ?_⟩
  rw [Snapshot.read_eq_answer hkey]
  exact hanswer

/-- An integer literal of any length and either sign, which is read as a number at all, is given
    for a reading in the text of a snapshot that is otherwise any. Then the snapshot is taken, and
    the reading is the integer clamped to 32 bits, as it would be for the nearest floating-point
    number. So of two literals the greater integer has no lesser reading, in whatever snapshots.
    And when a host has taken the snapshot, the function of the board for the reading returns this
    same integer, the sound level if it is live. -/
theorem reading_saturates {key : Key} (hkey : key ∈ Key.readings) {text : List Char → List Char}
    (hslot : Slot key text) {n : Int} {literal : List Char} (hliteral : IsInteger n literal)
    {x : Binary64.Finite} (hx : Json.readFloat literal = .ok (x, [])) (s : Sensors) :
    ∃ s', s.updateJson (String.ofList (text literal)) = .ok s' ∧
      (s'.read key).1.toInt = max (-2147483648) (min n 2147483647) ∧
      (∀ y, Binary64.Finite.ofNat (n < 0) n.natAbs = some y →
        Snapshot.reading y = (s'.read key).1) ∧
      (∀ text' m literal' y, Slot key text' → IsInteger m literal' →
        Json.readFloat literal' = .ok (y, []) → n ≤ m → ∀ t : Sensors,
        ∃ t', t.updateJson (String.ofList (text' literal')) = .ok t' ∧
          (s'.read key).1 ≤ (t'.read key).1) ∧
      ∀ h : Host, h.sensors = s → (key = .micVol → h.microphone = .live) →
        h.updateSensors (String.ofList (text literal)) = .ok { h with sensors := s' } ∧
        ∃ m name f i, Tells key m name ∧ m ∈ Devices.all ∧ m.function? name = some f ∧
          (f []).run { h with sensors := s' } = .ok (.ok (.int i), { h with sensors := s' }) ∧
          i.toInt = max (-2147483648) (min n 2147483647) := by
  obtain ⟨s', hupdate, hreading⟩ := updateJson_slot hkey hslot hliteral hx s
  -- Everything is read off this one reading, which is the integer clamped.
  -- Everything is read off this one reading, which is the integer clamped.
  have hclamp : (s'.read key).1.toInt = max (-2147483648) (min n 2147483647) := by
    rw [hreading, Snapshot.toInt_clamp]
  refine ⟨s', hupdate, hclamp, fun y hy => by rw [hreading, Snapshot.reading_ofNat hy], ?_, ?_⟩
  · intro text' m literal' y hslot' hliteral' hy hnm t
    obtain ⟨t', hupdate', hreading'⟩ := updateJson_slot hkey hslot' hliteral' hy t
    exact ⟨t', hupdate', hreading ▸ hreading' ▸ Snapshot.clamp_le_clamp hnm⟩
  · rintro h rfl hlive
    obtain ⟨m, name, f, htells, hall, hf, hrun⟩ := exists_tells hkey
    refine ⟨by rw [Host.updateSensors, hupdate]; rfl, m, name, f, _, htells, hall, hf,
      hrun { h with sensors := s' } hlive, ?_⟩
    have hwide : (Int64.ofInt (s'.read key).1.toInt).toInt = (s'.read key).1.toInt :=
      Int64.toInt_ofInt_of_le (by omega) (by omega)
    exact hwide.trans hclamp

/-- A literal beyond 64 bits with a button beside it. -/
theorem reading_saturates_beyond_64_bits :
    ∃ s, updateJson {} "\x7b\"b_pressed\":true,\"acc_y\":-99999999999999999999\x7d" = .ok s ∧
      (s.read .accY).1.toInt = -2147483648 := by
  have hbutton : Snapshot.ValidMember (.plain "b_pressed" (by decide) "true".toList) := by
    refine ⟨?_, fun h => ?_⟩
    swap
    · exact absurd rfl (h _ (List.mem_of_find?_eq_some (p := (·.key = "b_pressed")) rfl))
    simp only [Snapshot.fields, List.forall_mem_cons]
    refine ⟨?_, ?_, ?_, ?_, ?_, fun _ => ⟨_, rfl⟩, ?_, ?_, fun _ h => absurd h List.not_mem_nil⟩
    all_goals exact fun h => absurd h (by decide)
  have hslot := @Slot.object .accY [.plain "b_pressed" (by decide) "true".toList] []
    (.plain "acc_y" (by decide) []) Json.noSpace Json.noSpace Json.noSpace rfl
    (by simpa using hbutton) (by decide)
  have hdigits : Json.IsWhole "99999999999999999999".toList :=
    ⟨⟨by decide, List.all_eq_true.1 rfl⟩, by decide⟩
  have hliteral : IsInteger (-99999999999999999999) "-99999999999999999999".toList := .neg hdigits
  obtain ⟨s, hupdate, hreading, -⟩ := reading_saturates (by decide) hslot hliteral
    (x := ⟨true, 6103515625000000, 14⟩) (by decide +kernel) {}
  exact ⟨s, hupdate, hreading⟩

end Sensors

end LedBoard
