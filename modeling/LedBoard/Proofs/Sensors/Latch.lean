import LedBoard.Devices

/-!
# Press latches

Whether a button was pressed is answered by comparing its press count with the one at the
previous question, or with zero before the first. So what a history of requests to the sensors
answers about a button depends on the counts in force at these questions alone (`looks`): not on
the other button, not on the other questions, and not on how many snapshots came in between.

One request changes the snapshot if it publishes one, and the count last looked at if it asks
whether the button was pressed (`snapshot_serve`, `seen_serve`); the rest is by induction over
the requests.

* `pressAnswers_eq`: all answers about a button in a history;
* `press_latch`: the statements together.
-/

namespace LedBoard

namespace Devices.Button

/-- The press count of the button in a snapshot. -/
def count : Button → Snapshot → UInt32
  | .a => Snapshot.aPressCount
  | .b => Snapshot.bPressCount

/-- The press count of the button that was last looked at. -/
def seen : Button → Sensors → UInt32
  | .a => Sensors.seenA
  | .b => Sensors.seenB

end Devices.Button

namespace Sensors

open Devices (Button)

/-- What can be asked of the sensors. -/
inductive Request
  | update (snapshot : Snapshot)
  | updateJson (text : String)
  | read (key : Key)
  deriving DecidableEq

/-- What the sensors answer. -/
inductive Answer
  | updated
  | refused (p : Json.Problem)
  | reading (n : Int32)

/-- Serves a request. -/
def serve (s : Sensors) : Request → Answer × Sensors
  | .update snapshot => (.updated, s.update snapshot)
  | .updateJson text =>
    match s.updateJson text with
    | .ok s' => (.updated, s')
    | .error p => (.refused p, s)
  | .read key => (.reading (s.read key).1, (s.read key).2)

/-- Serves requests, one after the other. -/
def serveAll (s : Sensors) : List Request → List Answer × Sensors
  | [] => ([], s)
  | r :: rest => ((s.serve r).1 :: ((s.serve r).2.serveAll rest).1, ((s.serve r).2.serveAll rest).2)

/-! ## What counts for a button -/

/-- The snapshot that a request publishes. -/
def Request.published? : Request → Option Snapshot
  | .update snapshot => some snapshot
  | .updateJson text => (Snapshot.ofJson? text).toOption
  | .read _ => none

/-- The snapshot in force after requests, where `first` was in force before them. -/
def inForce (first : Snapshot) (rs : List Request) : Snapshot :=
  rs.foldl (fun snapshot r => r.published?.getD snapshot) first

/-- The request asks whether the button was pressed. -/
abbrev Request.press (which : Button) : Request := .read which.wasPressedKey

/-- The press counts of a button that are in force where requests ask whether it was pressed,
    where `count` was in force before them. -/
def looks (which : Button) (count : UInt32) : List Request → List UInt32
  | [] => []
  | r :: rest =>
    if r = .press which then count :: looks which count rest
    else looks which ((r.published?.map which.count).getD count) rest

/-- For each of the counts whether it differs from the one before it, at first from `seen`. -/
def changes (seen : UInt32) : List UInt32 → List Int32
  | [] => []
  | count :: rest => (if count ≠ seen then 1 else 0) :: changes count rest

/-- The answers to the requests that ask whether the button was pressed. -/
def pressAnswers (which : Button) (rs : List Request) (answers : List Answer) : List Answer :=
  ((rs.zip answers).filter (·.1 = .press which)).map (·.2)

/-! ## One request -/

theorem flag_bne (m n : UInt32) : flag (m != n) = if m ≠ n then 1 else 0 := by
  by_cases h : m = n <;> simp [flag, h]

/-- A button is said to have been pressed if its count is not the one that was seen last. -/
theorem read_press (s : Sensors) (which : Button) :
    (s.read which.wasPressedKey).1 = if which.count s.snapshot ≠ which.seen s then 1 else 0 := by
  cases which <;> exact flag_bne _ _

theorem updateJson_ok {s : Sensors} {text : String} {snapshot : Snapshot}
    (h : Snapshot.ofJson? text = .ok snapshot) :
    s.serve (.updateJson text) = (.updated, { s with snapshot }) := by
  rw [serve, updateJson, h]
  rfl

/-- A text that is no snapshot is refused with its problem, and leaves the sensors as they are. -/
theorem updateJson_error {s : Sensors} {text : String} {p : Json.Problem}
    (h : Snapshot.ofJson? text = .error p) : s.serve (.updateJson text) = (.refused p, s) := by
  rw [serve, updateJson, h]
  rfl

/-- A question changes nothing but the count of the button it is about. -/
theorem read_of_ne (s : Sensors) {key : Key} (h : ∀ which : Button, key ≠ which.wasPressedKey) :
    (s.read key).2 = s := by
  cases key with
  | aWasPressed => exact absurd rfl (h .a)
  | bWasPressed => exact absurd rfl (h .b)
  | _ => rfl

/-- The snapshot after a request is the one that it publishes, or the one from before. -/
theorem snapshot_serve (s : Sensors) (r : Request) :
    (s.serve r).2.snapshot = r.published?.getD s.snapshot := by
  cases r with
  | update snapshot => rfl
  | updateJson text =>
    cases h : Snapshot.ofJson? text with
    | ok snapshot => rw [updateJson_ok h, Request.published?, h]; rfl
    | error p => rw [updateJson_error h, Request.published?, h]; rfl
  | read key => cases key <;> rfl

/-- The count that was seen of a button changes at a question about this button, and at no other
    request. -/
theorem seen_serve (s : Sensors) (r : Request) (which : Button) :
    which.seen (s.serve r).2 = if r = .press which then which.count s.snapshot else which.seen s := by
  cases r with
  | update snapshot => cases which <;> rfl
  | updateJson text =>
    rw [if_neg (by simp)]
    cases h : Snapshot.ofJson? text with
    | ok snapshot => rw [updateJson_ok h]; cases which <;> rfl
    | error p => rw [updateJson_error h]
  | read key => cases which <;> cases key <;> rfl

theorem count_serve (s : Sensors) (r : Request) (which : Button) :
    which.count (s.serve r).2.snapshot = (r.published?.map which.count).getD (which.count s.snapshot) := by
  rw [snapshot_serve]
  cases r.published? <;> rfl

/-! ## Histories -/

theorem serveAll_append (s : Sensors) (rs more : List Request) :
    (s.serveAll (rs ++ more)).2 = ((s.serveAll rs).2.serveAll more).2 := by
  induction rs generalizing s with
  | nil => rfl
  | cons r rest ih => exact ih (s.serve r).2

/-- The snapshot of the sensors is the one in force: the last that was published. -/
theorem snapshot_serveAll (s : Sensors) (rs : List Request) :
    (s.serveAll rs).2.snapshot = inForce s.snapshot rs := by
  induction rs generalizing s with
  | nil => rfl
  | cons r rest ih =>
    rw [inForce, List.foldl_cons, ← inForce, ← snapshot_serve]
    exact ih _

/-- The count last looked at stays as long as nobody asks. -/
theorem seen_serveAll_of_not_mem {s : Sensors} {rs : List Request} {which : Button}
    (h : .press which ∉ rs) : which.seen (s.serveAll rs).2 = which.seen s := by
  induction rs generalizing s with
  | nil => rfl
  | cons r rest ih =>
    obtain ⟨hr, hrest⟩ := not_or.1 (mt List.mem_cons.2 h)
    rw [serveAll, ih hrest, seen_serve, if_neg (Ne.symm hr)]

/-- The count last looked at is the one that was in force at the latest question. -/
theorem seen_serveAll {s : Sensors} {before after : List Request} {which : Button}
    (h : .press which ∉ after) :
    which.seen (s.serveAll (before ++ .press which :: after)).2 = which.count (inForce s.snapshot before) := by
  rw [serveAll_append, serveAll, seen_serveAll_of_not_mem h, seen_serve, if_pos rfl,
    snapshot_serveAll]

/-- What is answered about a button is read off the counts in force at the questions. -/
theorem pressAnswers_eq (s : Sensors) (rs : List Request) (which : Button) :
    pressAnswers which rs (s.serveAll rs).1 =
      (changes (which.seen s) (looks which (which.count s.snapshot) rs)).map .reading := by
  induction rs generalizing s with
  | nil => rfl
  | cons r rest ih =>
    have hrest := ih (s.serve r).2
    rw [seen_serve, count_serve] at hrest
    rw [looks, serveAll, pressAnswers, List.zip_cons_cons]
    by_cases hr : r = .press which
    · rw [if_pos hr] at hrest ⊢
      rw [List.filter_cons_of_pos (by simpa using hr), List.map_cons, ← pressAnswers, hrest, hr]
      -- A question publishes nothing.
      rw [changes, List.map_cons, ← read_press]
      rfl
    · rw [if_neg hr] at hrest ⊢
      rw [List.filter_cons_of_neg (by simpa using hr), ← pressAnswers, hrest]

/-- The answer to a request is the one given after the requests before it. -/
theorem answer_serveAll (s : Sensors) (before : List Request) (r : Request)
    (after : List Request) :
    (s.serveAll (before ++ r :: after)).1[before.length]? =
      some ((s.serveAll before).2.serve r).1 := by
  induction before generalizing s with
  | nil => rfl
  | cons r' rest ih => exact ih (s.serve r').2

/-! ## The functions of the buttons -/

theorem function?_was_pressed (which : Button) :
    (Devices.button which).function? "was_pressed" = some (Devices.flag which.wasPressedKey) := by
  cases which <;> rfl

/-- The function of a button answers with the truth of the answer of the sensors. -/
theorem flag_run (which : Button) (h : Host) :
    (Devices.flag which.wasPressedKey []).run h =
      .ok (.ok (.bool ((h.sensors.read which.wasPressedKey).1 == 1)),
        { h with sensors := (h.sensors.read which.wasPressedKey).2 }) := by
  have htruth : ∀ n : Int32, n = 1 ∨ n = 0 → (n != 0) = (n == 1) := by
    rintro n (rfl | rfl) <;> rfl
  have hread : (h.sensors.read which.wasPressedKey).1 = 1 ∨
      (h.sensors.read which.wasPressedKey).1 = 0 := by
    rw [read_press]
    split
    · exact .inl rfl
    · exact .inr rfl
  rw [← htruth _ hread]
  rfl

/-! ## The law -/

/-- What holds of sensors that start with any snapshot, after any requests. Where the requests
    ask whether a button was pressed, the answer is 1 if the press count in force differs from
    the one in force at the question before, or from zero at the first question, and else 0. So
    the answers about a button are the same in all histories with the same counts in force at
    the questions about it. The other six questions change nothing; a text that is no snapshot
    changes nothing; a new snapshot replaces the one in force, and leaves the counts looked at.
    The function of the button gives the answer as a truth value. -/
theorem press_latch (first : Snapshot) (rs : List Request) (which : Button) :
    (∀ before after, rs = before ++ .press which :: after →
      (∀ earlier between, before = earlier ++ .press which :: between →
        .press which ∉ between →
        (serveAll { snapshot := first } rs).1[before.length]? = some (.reading
          (if which.count (inForce first before) ≠ which.count (inForce first earlier)
            then 1 else 0))) ∧
      (.press which ∉ before →
        (serveAll { snapshot := first } rs).1[before.length]? = some (.reading
          (if which.count (inForce first before) ≠ 0 then 1 else 0)))) ∧
    (∀ first' rs', looks which (which.count first') rs' = looks which (which.count first) rs →
      pressAnswers which rs' (serveAll { snapshot := first' } rs').1 =
        pressAnswers which rs (serveAll { snapshot := first } rs).1) ∧
    ∀ s, s = (serveAll { snapshot := first } rs).2 →
      s.snapshot = inForce first rs ∧
      (∀ key, (∀ which : Button, key ≠ which.wasPressedKey) → (s.read key).2 = s) ∧
      (∀ text p, Snapshot.ofJson? text = .error p →
        s.serve (.updateJson text) = (.refused p, s)) ∧
      (∀ text snapshot, Snapshot.ofJson? text = .ok snapshot →
        s.serve (.updateJson text) = (.updated, ⟨snapshot, s.seenA, s.seenB⟩)) ∧
      (∀ snapshot, s.serve (.update snapshot) = (.updated, ⟨snapshot, s.seenA, s.seenB⟩)) ∧
      ∀ h : Host, h.sensors = s →
        ∃ f n s', (Devices.button which).function? "was_pressed" = some f ∧
          s.serve (.press which) = (.reading n, s') ∧
          (f []).run h = .ok (.ok (.bool (n == 1)), { h with sensors := s' }) := by
  refine ⟨?_, ?_, ?_⟩
  · rintro before after rfl
    -- The answer compares the count in force with the one that was seen at the question before.
    rw [answer_serveAll, serve, read_press, snapshot_serveAll]
    constructor
    · rintro earlier between rfl hbetween
      rw [seen_serveAll hbetween]
    · intro hbefore
      rw [seen_serveAll_of_not_mem hbefore]
      cases which <;> rfl
  · intro first' rs' hlooks
    rw [pressAnswers_eq, pressAnswers_eq, hlooks]
    cases which <;> rfl
  · rintro s rfl
    refine ⟨snapshot_serveAll _ rs, fun key h => read_of_ne _ h, fun text p h =>
      updateJson_error h, fun text snapshot h => updateJson_ok h, fun snapshot => rfl, ?_⟩
    rintro h hsensors
    refine ⟨_, _, _, function?_was_pressed which, rfl, ?_⟩
    rw [flag_run, hsensors]

end Sensors

end LedBoard
