import LedBoard.Devices
import Mathlib.Data.List.Nodup

/-!
# Which calls are refused

The functions that scripts can call are few (`Devices.Entry`), and what they refuse follows one
order: a wrong number of arguments comes first, then the first argument of a wrong kind, and then
what the function has against arguments of the right kinds, which is only ever something if a dot
is set. Here this is said as a rule, which names the one error there can be, and as a computation.

* `Entry.Refuses`: the rule;
* `Entry.refusal?`: the error, computed;
* `refusal?_eq_some_iff`: both say the same.
-/

namespace LedBoard

/-- The value is of the kind; a truth value is no integer. -/
def ArgumentKind.fits : ArgumentKind → Value → Bool
  | .int, .int _ | .str, .str _ => true
  | _, _ => false

namespace Devices

/-- The functions that scripts can call. -/
inductive Entry
  | setPixel
  | clearDisplay
  | scroll
  | soundLevel
  | accX
  | accY
  | accZ
  | pressed (which : Button)
  | wasPressed (which : Button)
  | sleep
  | clearConsole
  | version
  deriving DecidableEq

/-- The number is a column and a row of the display. -/
def OnDisplay (n : Int64) : Prop := 0 ≤ n.toInt ∧ n.toInt < 5

instance (n : Int64) : Decidable (OnDisplay n) := inferInstanceAs (Decidable (_ ∧ _))

namespace Entry

/-- The module of the function, and its name. -/
def home : Entry → String × String
  | setPixel => ("display", "set_pixel")
  | clearDisplay => ("display", "clear")
  | scroll => ("display", "scroll")
  | soundLevel => ("microphone", "sound_level")
  | accX => ("accelerometer", "get_x")
  | accY => ("accelerometer", "get_y")
  | accZ => ("accelerometer", "get_z")
  | pressed which => (which.moduleName, "is_pressed")
  | wasPressed which => (which.moduleName, "was_pressed")
  | sleep => ("microbit", "sleep")
  | clearConsole => ("console", "clear")
  | version => ("console", "version")

/-- All functions. -/
def all : List Entry :=
  [setPixel, clearDisplay, scroll, soundLevel, accX, accY, accZ, pressed .a, wasPressed .a,
    pressed .b, wasPressed .b, sleep, clearConsole, version]

theorem mem_all (g : Entry) : g ∈ all := by
  cases g with
  | pressed which => cases which <;> decide
  | wasPressed which => cases which <;> decide
  | _ => decide

/-- A function is known by its module and its name. -/
theorem home_injective : Function.Injective home := fun g g' h =>
  List.inj_on_of_nodup_map (by decide) (mem_all g) (mem_all g') h

/-- The kinds of the arguments, in order. -/
def kinds : Entry → List ArgumentKind
  | setPixel => [.int, .int, .int]
  | scroll => [.str]
  | sleep => [.int]
  | _ => []

/-- What the function has against arguments of the right kinds. -/
def objection? : Entry → List Value → Option String
  | setPixel, [.int x, .int y, .int brightness] =>
    if ¬ (OnDisplay x ∧ OnDisplay y) then
      some ("pixel coordinates (" ++ Text.decimal x.toInt ++ ", " ++ Text.decimal y.toInt ++
        ") out of range")
    else if ¬ (0 ≤ brightness.toInt ∧ brightness.toInt ≤ 9) then
      some ("brightness " ++ Text.decimal brightness.toInt ++ " out of range 0-9")
    else none
  | _, _ => none

end Entry

/-- Every argument is of the kind asked for. -/
def Fit (kinds : List ArgumentKind) (args : List Value) : Prop :=
  ∀ (i : Nat) (k : ArgumentKind) (v : Value), kinds[i]? = some k → args[i]? = some v →
    k.fits v = true

/-- The argument at a place is not of the kind `k` asked for there, and those before it are. -/
structure FirstMisfit (kinds : List ArgumentKind) (args : List Value) (i : Nat) (k : ArgumentKind)
    (v : Value) : Prop where
  kind : kinds[i]? = some k
  argument : args[i]? = some v
  misfit : k.fits v = false
  first : ∀ j < i, ∀ k v, kinds[j]? = some k → args[j]? = some v → k.fits v = true

/-- The rule by which a call is refused. -/
inductive Entry.Refuses (g : Entry) (args : List Value) : ScriptError → Prop
  | count (hlength : args.length ≠ g.kinds.length) :
      Refuses g args (.argumentCount g.kinds.length args.length)
  | kind (hlength : args.length = g.kinds.length) {i : Nat} {k : ArgumentKind} {v : Value}
      (h : FirstMisfit g.kinds args i k v) : Refuses g args (.argumentType i k v.typeName)
  | value (hlength : args.length = g.kinds.length) (hfit : Fit g.kinds args) {message : String}
      (h : g.objection? args = some message) : Refuses g args (.value message)

/-! ## The error, computed -/

/-- The error about the first argument of a wrong kind, the first one being at the place `n`. -/
def misfit? (n : Nat) : List ArgumentKind → List Value → Option ScriptError
  | k :: ks, v :: vs =>
    if k.fits v then misfit? (n + 1) ks vs else some (.argumentType n k v.typeName)
  | _, _ => none

/-- The error with which a call is refused. -/
def Entry.refusal? (g : Entry) (args : List Value) : Option ScriptError :=
  if args.length = g.kinds.length then
    (misfit? 0 g.kinds args).or ((g.objection? args).map .value)
  else some (.argumentCount g.kinds.length args.length)

/-- No misfit is found just where the values fit the kinds. -/
theorem misfit?_eq_none_iff {n : Nat} {ks : List ArgumentKind} {vs : List Value} :
    misfit? n ks vs = none ↔ Fit ks vs := by
  induction ks generalizing n vs with
  | nil => exact ⟨fun _ _ _ _ hk => (nomatch hk), fun _ => rfl⟩
  | cons k ks ih =>
    cases vs with
    | nil => exact ⟨fun _ _ _ _ _ hv => (nomatch hv), fun _ => rfl⟩
    | cons v vs =>
      rw [misfit?]
      cases hfits : k.fits v with
      | true =>
        rw [if_pos rfl, ih]
        refine ⟨fun h i => ?_, fun h i => h (i + 1)⟩
        cases i with
        | zero =>
          rintro _ _ ⟨⟩ ⟨⟩
          exact hfits
        | succ i => exact h i
      | false =>
        refine ⟨nofun, fun h => ?_⟩
        cases hfits.symm.trans (h 0 k v rfl rfl)

/-- The misfit that is found is the first one. -/
theorem misfit?_eq_some_iff {n : Nat} {ks : List ArgumentKind} {vs : List Value} {e : ScriptError} :
    misfit? n ks vs = some e ↔
      ∃ i k v, FirstMisfit ks vs i k v ∧ e = .argumentType (n + i) k v.typeName := by
  induction ks generalizing n vs with
  | nil =>
    refine ⟨nofun, ?_⟩
    rintro ⟨i, k, v, h, -⟩
    cases h.kind
  | cons k ks ih =>
    cases vs with
    | nil =>
      refine ⟨nofun, ?_⟩
      rintro ⟨i, k, v, h, -⟩
      cases h.argument
    | cons v vs =>
      rw [misfit?]
      cases hfits : k.fits v with
      | true =>
        -- The places are counted from the argument after `v`, which fits.
        rw [if_pos rfl, ih]
        constructor
        · rintro ⟨i, k', v', h, rfl⟩
          refine ⟨i + 1, k', v', ⟨h.kind, h.argument, h.misfit, fun j hj => ?_⟩, ?_⟩
          · cases j with
            | zero =>
              rintro _ _ ⟨⟩ ⟨⟩
              exact hfits
            | succ j => exact h.first j (Nat.lt_of_succ_lt_succ hj)
          · rw [Nat.add_right_comm, Nat.add_assoc]
        · rintro ⟨i, k', v', h, rfl⟩
          cases i with
          | zero =>
            cases h.kind
            cases h.argument
            cases hfits.symm.trans h.misfit
          | succ i =>
            refine ⟨i, k', v', ⟨h.kind, h.argument, h.misfit, fun j hj =>
              h.first (j + 1) (Nat.succ_lt_succ hj)⟩, ?_⟩
            rw [Nat.add_right_comm, Nat.add_assoc]
      | false =>
        rw [if_neg Bool.false_ne_true]
        constructor
        · rintro ⟨⟩
          exact ⟨0, k, v, ⟨rfl, rfl, hfits, fun j hj => absurd hj j.not_lt_zero⟩, rfl⟩
        · rintro ⟨i, k', v', h, rfl⟩
          cases i with
          | zero =>
            cases h.kind
            cases h.argument
            rfl
          | succ i => cases hfits.symm.trans (h.first 0 i.succ_pos k v rfl rfl)

/-- The rule names the error that is computed. -/
theorem refusal?_eq_some_iff {g : Entry} {args : List Value} {e : ScriptError} :
    g.refusal? args = some e ↔ g.Refuses args e := by
  rw [Entry.refusal?]
  constructor
  · intro h
    split at h
    next hlength =>
      rcases Option.or_eq_some_iff.1 h with h | ⟨hfit, h⟩
      · obtain ⟨i, k, v, hfirst, rfl⟩ := misfit?_eq_some_iff.1 h
        rw [Nat.zero_add]
        exact .kind hlength hfirst
      · obtain ⟨message, hobjection, rfl⟩ := Option.map_eq_some_iff.1 h
        exact .value hlength (misfit?_eq_none_iff.1 hfit) hobjection
    next hlength =>
      cases h
      exact .count hlength
  · intro h
    cases h with
    | count hlength => exact if_neg hlength
    | kind hlength hfirst =>
      rw [if_pos hlength, misfit?_eq_some_iff.2 ⟨_, _, _, hfirst, rfl⟩, Nat.zero_add]
      rfl
    | value hlength hfit hobjection =>
      rw [if_pos hlength, misfit?_eq_none_iff.2 hfit, hobjection]
      rfl

/-- Of several faults the first argument of a wrong kind is told; a truth value is no integer. -/
example : Entry.refusal? .setPixel [.int 9, .bool true, .str "9"] =
    some (.argumentType 1 .int "bool") := rfl

end Devices

end LedBoard
