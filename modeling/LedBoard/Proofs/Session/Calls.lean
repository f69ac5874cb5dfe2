import LedBoard.Proofs.Engine.Watch
import Mathlib.Data.List.Chain
import LedBoard.Session

/-!
# How a session calls its interpreters

A console session relies on the order in which it calls its interpreters: an exception that was
left behind would be reported as the end of the next line. So what it calls is stated for every
engine, whatever its instances answer and wherever they fail, by what is added to the log of the
engine under watch.

* `openWith_logs`, `execute_logs`: the calls of a session that is opened, and of a line of input;
* `History.logs`: the calls of a whole session, by induction on its lines;
* `orderly`: what can be read off such a log;
* `openWith_sim`, `execute_sim`: the session without the watch does the same.
-/

namespace LedBoard

variable {κ ι : Type}

/-- The source that an exchange runs. -/
def Exchange.source? (x : Exchange) : Option String :=
  match x.call with
  | .evaluate code | .execute code => some code
  | _ => none

namespace Session

/-- The calls that open a session, the first of whose instances is the number `n`. -/
def openingCalls (config : Config) (n : Nat) : List (Nat × Plan.Call) :=
  [(n, .create config.enableOsAccess true), (n, .global "clear"), (n, .global "version"),
    (n + 1, .create false false)]

/-- A line of input as the interpreters see it. -/
structure Round where
  code : String
  isExpression : Bool
  completion : Completion

/-- The call that runs the line. -/
def Round.run (r : Round) : Plan.Call :=
  if r.isExpression then .evaluate r.code else .execute r.code

/-- The exchanges of a line. -/
def Round.exchanges (live checker : Nat) (r : Round) : List Exchange :=
  [⟨checker, .clearException, .done⟩, ⟨checker, .compiles r.code, .told r.isExpression⟩,
    ⟨live, r.run, .ended r.completion⟩, ⟨live, .clearException, .done⟩]

/-- What the exchanges of an opening are, given how it ended. -/
def Opened (config : Config) (n : Nat) (r : Except OpenError (Session (Watched ι)))
    (xs : List Exchange) : Prop :=
  (∃ s, r = .ok s ∧ s.live.number = n ∧ s.checker.number = n + 1 ∧ s.shouldExit = false ∧
    InOrder (openingCalls config n) (.ok ()) xs) ∨
  ∃ cause error, InOrder (openingCalls config n) (.error cause) xs ∧ r = .error error ∧
    error = (if xs.length ≤ 3 then .live cause else .checker cause) ∧
    error.status = if xs.length ≤ 3 then 1 else 2

variable (e : Engine Host κ ι)

theorem abandon_logs {n : Nat} (i : Watched ι) (cause : OpenError) :
    Logs n (abandon e.watched i cause) fun r n' xs => n' = n ∧ r = .error cause ∧ xs = [] := by
  refine (Logs.drop e i).bind ?_
  rintro _ _ _ ⟨rfl, rfl⟩
  exact .pure ⟨rfl, rfl, rfl⟩

/-- An opening asks for its calls in order, up to the first that fails, and the number of the calls
    made tells which error it is. -/
theorem openWith_logs (config : Config) (n : Nat) :
    Logs n (openWith e.watched config) fun r _ xs => Opened config n r xs := by
  refine (Logs.create e _).bind ?_
  rintro (cause | live) _ _ ⟨rfl, hlive, rfl⟩
  · exact .pure (.inr ⟨cause, _, .failed _ _ _ _, rfl, rfl, rfl⟩)
  have hlive := hlive live rfl
  refine (Logs.setGlobalFunctions e live Devices.consoleFunctions).bind ?_
  rintro ⟨bound, live'⟩ _ xs ⟨rfl, hlive', hxs⟩
  rw [hlive] at hlive' hxs
  cases bound with
  | error cause =>
    refine (abandon_logs e live' _).mono ?_
    rintro _ _ _ ⟨-, rfl, rfl⟩
    -- The functions of the console are two, so the checker has not been asked for.
    have hlength : xs.length + 1 ≤ 3 := Nat.succ_le_succ hxs.length_le
    rw [List.append_nil]
    exact .inr ⟨cause, _, .done (hxs.append_left _), rfl, (if_pos hlength).symm,
      (if_pos hlength).symm⟩
  | ok =>
    refine (Logs.create e {}).bind ?_
    rintro (cause | checker) _ _ ⟨rfl, hchecker, rfl⟩
    · refine (abandon_logs e live' _).mono ?_
      rintro _ _ _ ⟨-, rfl, rfl⟩
      rw [hxs.eq_map]
      exact .inr ⟨cause, _, .done (hxs.eq_map ▸ hxs.append (.failed _ _ _ _)), rfl, rfl, rfl⟩
    · refine (Logs.onHost _).bind ?_
      rintro _ _ _ ⟨rfl, rfl⟩
      exact .pure (.inl ⟨_, rfl, hlive', hchecker checker rfl, rfl,
        .done (hxs.append (.done .nil))⟩)

/-- Runs a line in the mode that the checker found. -/
def runAs (isExpression : Bool) (i : ι) (code : String) : Run (κ × Host) (Completion × ι) :=
  if isExpression then e.evaluate i code else e.execute i code

/-- The mode in which a line is run. -/
def modeFor (isExpression : Bool) : InputMode := if isExpression then .expression else .statements

/-- A line of input: the checker is cleared and asked, the live instance runs the line as the
    checker says, and is cleared whatever came of it. -/
theorem execute_eq (s : Session ι) (code : String) :
    execute e s code = (do
      let checker ← e.clearException s.checker
      let x ← e.compilesAsExpression checker code
      let y ← runAs e x.1 s.live code
      act (Host.emit · (.inputRun (modeFor x.1)))
      act (report y.1)
      let live ← e.clearException y.2
      return (modeFor x.1, ⟨live, x.2, y.1 == .exit⟩)) := by
  rw [execute]
  congr 1
  funext checker
  congr 1
  funext ⟨isExpression, checker⟩
  cases isExpression <;> rfl

theorem runAs_logs (i : Watched ι) (r : Round) (n : Nat) :
    Logs n (runAs e.watched r.isExpression i r.code) fun x n' xs =>
      n' = n ∧ x.2.number = i.number ∧ xs = [⟨i.number, r.run, .ended x.1⟩] := by
  obtain ⟨code, isExpression, -⟩ := r
  cases isExpression with
  | true => exact .ask i (.evaluate code) .ended (e.evaluate · code)
  | false => exact .ask i (.execute code) .ended (e.execute · code)

/-- A line of input is one round of calls: the checker is cleared and asked, the live instance runs
    the line and is cleared. The flag is set just if this run asked to exit. -/
theorem execute_logs (s : Session (Watched ι)) (code : String) (n : Nat) :
    Logs n (execute e.watched s code) fun x n' xs => n' = n ∧ ∃ r : Round, r.code = code ∧
      xs = r.exchanges s.live.number s.checker.number ∧ x.1 = modeFor r.isExpression ∧
      x.2.shouldExit = (r.completion == .exit) ∧
      x.2.live.number = s.live.number ∧ x.2.checker.number = s.checker.number := by
  rw [execute_eq]
  refine (Logs.clearException e s.checker).bind ?_
  rintro checker n _ ⟨rfl, hcleared, rfl⟩
  refine (Logs.ask checker (.compiles code) .told (e.compilesAsExpression · code)).bind ?_
  rintro ⟨isExpression, checker'⟩ n _ ⟨rfl, hasked, rfl⟩
  refine (runAs_logs e s.live ⟨code, isExpression, .noValue⟩ n).bind ?_
  rintro ⟨completion, live⟩ n _ ⟨rfl, hlive, rfl⟩
  refine (Logs.onHost _).bind ?_
  rintro _ n _ ⟨rfl, rfl⟩
  refine (Logs.onHost _).bind ?_
  rintro _ n _ ⟨rfl, rfl⟩
  refine (Logs.clearException e live).bind ?_
  rintro live' n _ ⟨rfl, hlive', rfl⟩
  refine .pure ⟨rfl, ⟨code, isExpression, completion⟩, rfl, ?_, rfl, rfl,
    hlive'.trans hlive, hasked.trans hcleared⟩
  rw [hcleared, show live.number = s.live.number from hlive]
  rfl

/-! ## Histories -/

/-- Lines of input run in a session, one after the other, while anything may be done to the host
    between them: its output is read, taken or dropped. -/
inductive History : Session ι → κ × Host → List String → Session ι → κ × Host → Prop
  | nil (s : Session ι) (w : κ × Host) : History s w [] s w
  | execute {s s' s'' : Session ι} {w w' w'' : κ × Host} {codes : List String} {code : String}
      {mode : InputMode} (h : History s w codes s' w')
      (hexecute : execute e s' code w' = .ok ((mode, s''), w'')) :
      History s w (codes ++ [code]) s'' w''
  | onHost {s s' : Session ι} {w w' : κ × Host} {codes : List String} (h : History s w codes s' w')
      (host : Host) : History s w codes s' (w'.1, host)

variable {e}

/-- The exchanges of a session are those of its lines. -/
theorem History.logs {s s' : Session (Watched ι)} {w w' : Watch κ × Host} {codes : List String}
    (h : History e.watched s w codes s' w') :
    s'.live.number = s.live.number ∧ s'.checker.number = s.checker.number ∧
      ∃ rounds : List Round, rounds.map Round.code = codes ∧ w'.1.log = w.1.log ++
        rounds.flatMap (Round.exchanges s.live.number s.checker.number) := by
  induction h with
  | nil => exact ⟨rfl, rfl, [], rfl, (List.append_nil _).symm⟩
  | onHost _ _ ih => exact ih
  | execute _ hexecute ih =>
    obtain ⟨hlive, hchecker, rounds, hcodes, hlog⟩ := ih
    obtain ⟨_, hadded, -, r, hcode, rfl, -, -, hlive', hchecker'⟩ :=
      execute_logs e _ _ _ _ _ _ _ _ rfl hexecute
    refine ⟨hlive'.trans hlive, hchecker'.trans hchecker, rounds ++ [r], ?_, ?_⟩
    · rw [List.map_append, hcodes, List.map_singleton, hcode]
    · rw [hadded, hlog, hlive, hchecker, List.flatMap_append, List.flatMap_singleton,
        List.append_assoc]

/-! ## What can be read off a log -/

/-- The exchanges of a session whose live instance is the number `n` are in order: the checker is
    given nothing to print with, is asked to clear itself and to tell what the sources are, and
    nothing else; the live instance is not asked this; every source is run exactly once, by the
    live instance; and between any two runs the live instance is cleared. -/
structure Orderly (n : Nat) (codes : List String) (xs : List Exchange) : Prop where
  checker : ∀ x ∈ xs, x.number ≠ n → x.number = n + 1 ∧
    (x.call = .create false false ∨ x.call = .clearException ∨
      ∃ code ∈ codes, x.call = .compiles code)
  live : ∀ x ∈ xs, x.number = n → ∀ code, x.call ≠ .compiles code
  once : xs.filterMap Exchange.source? = codes
  cleared : ∀ before x between y after, xs = before ++ x :: between ++ y :: after →
    x.source?.isSome → y.source?.isSome → ⟨n, .clearException, .done⟩ ∈ between

/-- What may follow an exchange: the run of a source is followed by clearing the instance. -/
def Follows (live : Nat) (x y : Exchange) : Prop :=
  x.source?.isSome → y = ⟨live, .clearException, .done⟩

theorem Round.source?_run (r : Round) (number : Nat) (reply : Reply) :
    (Exchange.mk number r.run reply).source? = some r.code := by
  rw [Round.run, Exchange.source?]
  cases r.isExpression <;> rfl

theorem Round.sources (live checker : Nat) (r : Round) :
    (r.exchanges live checker).filterMap Exchange.source? = [r.code] := by
  rw [Round.exchanges, List.filterMap_cons_none rfl, List.filterMap_cons_none rfl,
    List.filterMap_cons_some (r.source?_run _ _), List.filterMap_cons_none rfl, List.filterMap_nil]

/-- In a round a run is followed at once by the clearing of the instance that ran it. -/
theorem Round.follows (live checker : Nat) (r : Round) :
    (r.exchanges live checker).IsChain (Follows live) := by
  rw [Round.exchanges, List.isChain_cons_cons, List.isChain_cons_cons, List.isChain_cons_cons]
  exact ⟨nofun, nofun, fun _ => rfl, List.isChain_singleton _⟩

/-- Whatever comes after the exchanges of a line, the last of them is no run. -/
theorem Round.follows_append (live checker : Nat) (r : Round) {xs : List Exchange}
    (h : xs.IsChain (Follows live)) :
    (r.exchanges live checker ++ xs).IsChain (Follows live) := by
  refine List.isChain_append.2 ⟨r.follows live checker, h, ?_⟩
  rintro _ ⟨⟩ _ _ hrun
  cases hrun

theorem follows_rounds (live checker : Nat) (rounds : List Round) :
    (rounds.flatMap (Round.exchanges live checker)).IsChain (Follows live) := by
  induction rounds with
  | nil => exact List.isChain_nil
  | cons r rest ih => exact r.follows_append live checker ih

/-- Where each run is followed by a clearing, there is one between any two runs. -/
theorem mem_of_follows {live : Nat} {xs before between after : List Exchange} {x y : Exchange}
    (h : xs.IsChain (Follows live)) (hxs : xs = before ++ x :: between ++ y :: after)
    (hx : x.source?.isSome) (hy : y.source?.isSome) :
    ⟨live, .clearException, .done⟩ ∈ between := by
  rw [hxs, List.append_assoc] at h
  have hfollows := h.right_of_append
  cases between with
  | nil =>
    -- The runs cannot stand side by side, since clearing is no run.
    rw [(List.isChain_cons_cons.1 hfollows).1 hx] at hy
    cases hy
  | cons z between => exact List.mem_cons.2 (.inl ((List.isChain_cons_cons.1 hfollows).1 hx).symm)

/-- In a round the live instance is never asked about a source, and the checker never runs one. -/
theorem Round.cases_of_mem {live checker : Nat} {r : Round} {x : Exchange}
    (hx : x ∈ r.exchanges live checker) :
    (x.number = live ∧ ∀ code, x.call ≠ .compiles code) ∨
      x.number = checker ∧ (x.call = .clearException ∨ x.call = .compiles r.code) := by
  simp only [Round.exchanges, List.mem_cons, List.not_mem_nil, or_false] at hx
  rcases hx with rfl | rfl | rfl | rfl
  · exact .inr ⟨rfl, .inl rfl⟩
  · exact .inr ⟨rfl, .inr rfl⟩
  · refine .inl ⟨rfl, fun code => ?_⟩
    rw [Round.run]
    cases r.isExpression <;> nofun
  · exact .inl ⟨rfl, nofun⟩

/-- At an opening the checker is only created. -/
theorem cases_of_mem_opening {config : Config} {n : Nat} {x : Exchange}
    (hx : x ∈ (openingCalls config n).map .ofDone) :
    (x.number = n ∧ ∀ code, x.call ≠ .compiles code) ∨
      x.number = n + 1 ∧ x.call = .create false false := by
  obtain ⟨c, hc, rfl⟩ := List.mem_map.1 hx
  simp only [openingCalls, List.mem_cons, List.not_mem_nil, or_false] at hc
  rcases hc with rfl | rfl | rfl | rfl
  · exact .inl ⟨rfl, nofun⟩
  · exact .inl ⟨rfl, nofun⟩
  · exact .inl ⟨rfl, nofun⟩
  · exact .inr ⟨rfl, rfl⟩

/-- An opening followed by lines of input is in order. -/
theorem orderly (config : Config) (n : Nat) (rounds : List Round) :
    Orderly n (rounds.map Round.code)
      ((openingCalls config n).map .ofDone ++ rounds.flatMap (Round.exchanges n (n + 1))) where
  checker x hx hn := by
    rcases List.mem_append.1 hx with hx | hx
    · rcases cases_of_mem_opening hx with ⟨hlive, -⟩ | ⟨hchecker, hcall⟩
      · exact absurd hlive hn
      · exact ⟨hchecker, .inl hcall⟩
    · obtain ⟨r, hr, hx⟩ := List.mem_flatMap.1 hx
      rcases r.cases_of_mem hx with ⟨hlive, -⟩ | ⟨hchecker, hcall⟩
      · exact absurd hlive hn
      · exact ⟨hchecker, .inr (hcall.imp id fun hcall => ⟨_, List.mem_map_of_mem hr, hcall⟩)⟩
  live x hx hn := by
    rcases List.mem_append.1 hx with hx | hx
    · rcases cases_of_mem_opening hx with ⟨-, hcall⟩ | ⟨hchecker, -⟩
      · exact hcall
      · omega
    · obtain ⟨r, -, hx⟩ := List.mem_flatMap.1 hx
      rcases r.cases_of_mem hx with ⟨-, hcall⟩ | ⟨hchecker, -⟩
      · exact hcall
      · omega
  once := by
    -- An opening runs nothing, and every line runs its source.
    rw [List.filterMap_append]
    induction rounds with
    | nil => rfl
    | cons r rest ih =>
      rw [List.flatMap_cons, List.filterMap_append, r.sources]
      exact congrArg (r.code :: ·) ih
  cleared before x between y after := by
    -- Clearing follows every run at once; an opening has no run to be followed.
    refine mem_of_follows (List.isChain_append.2 ⟨?_, follows_rounds n (n + 1) rounds, ?_⟩)
    · simp only [openingCalls, List.map_cons, List.map_nil, List.isChain_cons_cons]
      exact ⟨nofun, nofun, nofun, List.isChain_singleton _⟩
    · rintro _ ⟨⟩ _ _ hrun
      cases hrun

/-! ## The same without the watch -/

/-- A session under watch and the same session without it. -/
structure Is (s : Session (Watched ι)) (t : Session ι) : Prop where
  live : s.live.Is t.live
  checker : s.checker.Is t.checker
  shouldExit : s.shouldExit = t.shouldExit

variable (e)

theorem abandon_sim {i : Watched ι} {j : ι} (h : i.Is j) (cause : OpenError) :
    Run.Sim Watch.Same (Ended Is) (abandon e.watched i cause) (abandon e j cause) :=
  (e.drop_sim h).bind fun _ _ _ => .pure (.failed cause)

/-- The log of the calls changes nothing about an opening. -/
theorem openWith_sim (config : Config) :
    Run.Sim Watch.Same (Ended Is) (openWith e.watched config) (openWith e config) := by
  refine (e.create_sim _).bind ?_
  rintro _ _ (cause | hlive)
  · exact .pure (.failed _)
  refine (e.setGlobalFunctions_sim hlive _).bind ?_
  rintro ⟨bound, live⟩ ⟨_, live'⟩ ⟨rfl, hlive'⟩
  cases bound with
  | error cause => exact abandon_sim e hlive' _
  | ok =>
    refine (e.create_sim _).bind ?_
    rintro _ _ (cause | hchecker)
    · exact abandon_sim e hlive' _
    · exact (Watch.onHost_sim _).bind fun _ _ _ => .pure (.returned ⟨hlive', hchecker, rfl⟩)

/-- Nor does it change anything about a line of input. -/
theorem execute_sim {s : Session (Watched ι)} {t : Session ι} (h : s.Is t) (code : String) :
    Run.Sim Watch.Same (fun x y => x.1 = y.1 ∧ x.2.Is y.2) (execute e.watched s code)
      (execute e t code) := by
  rw [execute_eq, execute_eq]
  refine (e.clearException_sim h.checker).bind fun checker checker' hcleared => ?_
  refine (Watched.ask_sim hcleared _ _ (e.compilesAsExpression · code)).bind ?_
  rintro ⟨isExpression, checker⟩ ⟨_, checker'⟩ ⟨rfl, hchecker⟩
  have hrun : Run.Sim Watch.Same Watched.Agree (runAs e.watched isExpression s.live code)
      (runAs e isExpression t.live code) := by
    cases isExpression with
    | true => exact Watched.ask_sim h.live _ _ (e.evaluate · code)
    | false => exact Watched.ask_sim h.live _ _ (e.execute · code)
  refine hrun.bind ?_
  rintro ⟨completion, live⟩ ⟨_, live'⟩ ⟨rfl, hlive⟩
  refine (Watch.onHost_sim _).bind fun _ _ _ => (Watch.onHost_sim _).bind fun _ _ _ => ?_
  exact (e.clearException_sim hlive).bind fun _ _ hlive' => .pure ⟨rfl, hlive', hchecker, rfl⟩

end Session

end LedBoard
