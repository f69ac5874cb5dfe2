import LedBoard.Proofs.Session.Line

/-!
# The history of a session

Between two lines of input the output of a session may be read, taken or dropped. None of this
reaches the live instance, so how a line goes depends on the lines before it alone; and since the
output grows by the same text wherever it starts, what is read after the output was dropped and
one line was run is the text of this line.

* `serveAll`: a history of requests, one after the other;
* `lines`: how the lines among the requests went;
* `lines_congr`: they depend on the lines alone;
* `session_law`: the statements together.
-/

namespace LedBoard.Session

open Script (Interpreter)

/-- What can be asked of an open session. -/
inductive Request
  | execute (code : String)
  | takeOutput
  | clearOutput
  | readOutput
  deriving DecidableEq, Repr

/-- The line that a request asks to run. -/
def Request.code? : Request → Option String
  | .execute code => some code
  | .takeOutput | .clearOutput | .readOutput => none

/-- How a line went: its mode, what it appended to the output, and the flag after it. -/
structure Line where
  mode : InputMode
  appended : String
  shouldExit : Bool
  deriving DecidableEq, Repr

/-- What a session answers. -/
inductive Answer
  | line (l : Line)
  | text (output : String)
  | done
  deriving DecidableEq, Repr

/-- The line that was run. -/
def Answer.line? : Answer → Option Line
  | .line l => some l
  | .text _ | .done => none

variable {s t : Session (Interpreter Host)} {w v : Script.Supply × Host}

/-- Serves a request. -/
def serve (s : Session (Interpreter Host)) :
    Request → Run (Script.Supply × Host) (Answer × Session (Interpreter Host))
  | .execute code => fun w => (execute Script.engine s code w).map fun x =>
    ((.line ⟨x.1.1, w.2.since x.2.2, x.1.2.shouldExit⟩, x.1.2), x.2)
  | .takeOutput => fun w => .ok ((.text w.2.takeOutput.1, s), (w.1, w.2.takeOutput.2))
  | .clearOutput => fun w => .ok ((.done, s), (w.1, w.2.clearOutput))
  | .readOutput => fun w => .ok ((.text w.2.output.text, s), w)

/-- Serves requests, one after the other. -/
def serveAll (s : Session (Interpreter Host)) :
    List Request → Run (Script.Supply × Host) (List Answer × Session (Interpreter Host))
  | [] => pure ([], s)
  | r :: rest => do
    let (answer, s) ← s.serve r
    let (answers, s) ← s.serveAll rest
    return (answer :: answers, s)

/-- How the lines among the requests go, up to a crash. -/
def lines (s : Session (Interpreter Host)) (w : Script.Supply × Host) :
    List Request → List (Except Crash Line)
  | [] => []
  | r :: rest =>
    match s.serve r w with
    | .error crash => [.error crash]
    | .ok ((answer, s), w) => (answer.line?.toList.map .ok) ++ s.lines w rest

/-! ## Opening -/

/-- The live instance of a session that has just been opened. -/
def openedLive (config : Config) : Interpreter Host :=
  (Interpreter.create { enableOsAccess := config.enableOsAccess, print := some Host.print }
    |>.bindFunctions Devices.consoleFunctions)

theorem create_apply (config : EngineConfig Host) (w : Script.Supply × Host) :
    Script.engine.create config w =
      .ok (if w.1.next.1 then .ok (.create config) else .error .createFailed,
        (w.1.next.2, w.2)) :=
  rfl

theorem setGlobalFunctions_eq (i : Interpreter Host) (functions : List (String × Native Host)) :
    Script.engine.setGlobalFunctions i functions = pure (.ok (), i.bindFunctions functions) := by
  induction functions generalizing i with
  | nil => rfl
  | cons a rest ih => exact ih (i.bind a.1 (.function a.1 a.2))

/-- A session opens if the supply allows both instances, and then it is the same for every
    host. -/
theorem openWith_live {config : Config} {w w' : Script.Supply × Host}
    (h : openWith Script.engine config w = .ok (.ok s, w')) :
    s.live = openedLive config ∧ w'.2 = w.2.emit .sessionOpened := by
  rw [openWith] at h
  -- The session has opened, so both creations and the binding between them have succeeded.
  -- The session has opened, so both creations and the binding between them have succeeded.
  obtain ⟨result, w₁, hlive, h⟩ := Run.exists_of_bind h
  rw [create_apply] at hlive
  cases hlive
  cases hb : w.1.next.1 with
  | false =>
    rw [hb] at h
    cases h
  | true =>
    rw [hb] at h
    obtain ⟨bound, w₂, hbound, h⟩ := Run.exists_of_bind h
    rw [setGlobalFunctions_eq] at hbound
    cases hbound
    obtain ⟨result, w₃, hchecker, h⟩ := Run.exists_of_bind h
    rw [create_apply] at hchecker
    cases hchecker
    cases hb' : w.1.next.2.next.1 with
    | false =>
      rw [hb'] at h
      cases h
    | true =>
      rw [hb'] at h
      cases h
      exact ⟨rfl, rfl⟩

/-- The live instances of two sessions, however these are configured, are linked: they hold the
    functions of the console and nothing else. -/
theorem openedLive_linked (config config' : Config) :
    Linked (openedLive config) (openedLive config') := by
  have hcreated : Linked
      (.create { enableOsAccess := config.enableOsAccess, print := some Host.print })
      (.create { enableOsAccess := config'.enableOsAccess, print := some Host.print }) :=
    { globals := fun _ _ => .none
      modules := fun _ => .none
      natives := fun ⟨hfg, hf⟩ => hfg ▸ console_sim hf
      write := fun chunk _ _ _ => .returned ⟨.returned rfl, trivial⟩
      pending := rfl
      runs := rfl }
  refine Interpreter.Sim.bindFunctions hcreated ?_
  exact .cons ⟨rfl, rfl, List.mem_cons_self⟩
    (.cons ⟨rfl, rfl, List.mem_cons_of_mem _ List.mem_cons_self⟩ .nil)

theorem openWith_sound {config : Config}
    (h : openWith Script.engine config w = .ok (.ok s, v)) :
    Sound w.2.output.listener s v.2 := by
  obtain ⟨hlive, hhost⟩ := openWith_live h
  refine ⟨hlive ▸ openedLive_linked config config, ?_, by rw [hhost]; rfl⟩
  rw [hlive]
  exact (Interpreter.bindFunctions_frame _ _).print

/-! ## Requests -/

variable {listener listener' : Option Output.Listener}

theorem Sound.of_execute (hs : Sound listener s w.2) (hlistener : ∀ l ∈ listener, l.acts = [])
    {code : String} {mode : InputMode}
    (h : Session.execute Script.engine s code w = .ok ((mode, t), v)) :
    Sound listener t v.2 := by
  rcases hs.execute hlistener code with ⟨crash, -, hexecute⟩ |
    ⟨-, -, -, -, s', h', -, -, hexecute, -, -, -, hsound⟩
  · rw [h] at hexecute
    cases hexecute
  · rw [h] at hexecute
    cases hexecute
    exact hsound

/-- Whatever is asked of a session, it stays sound. -/
theorem Sound.serve (hs : Sound listener s w.2) (hlistener : ∀ l ∈ listener, l.acts = [])
    {r : Request} {answer : Answer} (h : s.serve r w = .ok ((answer, t), v)) :
    Sound listener t v.2 := by
  cases r with
  | execute code =>
    change (Session.execute Script.engine s code w).map _ = _ at h
    cases hexecute : Session.execute Script.engine s code w with
    | error crash =>
      rw [hexecute] at h
      cases h
    | ok x =>
      rw [hexecute] at h
      cases h
      exact hs.of_execute hlistener hexecute
  | takeOutput | clearOutput =>
    cases h
    exact ⟨hs.linked, hs.print, hs.listener⟩
  | readOutput =>
    cases h
    exact hs

/-- So it does under a history of requests. -/
theorem Sound.serveAll (hs : Sound listener s w.2) (hlistener : ∀ l ∈ listener, l.acts = [])
    {rs : List Request} {answers : List Answer}
    (h : s.serveAll rs w = .ok ((answers, t), v)) : Sound listener t v.2 := by
  induction rs generalizing s w answers with
  | nil =>
    cases h
    exact hs
  | cons r rest ih =>
    obtain ⟨⟨answer, s'⟩, w', hserve, h⟩ := Run.exists_of_bind h
    obtain ⟨⟨others, t'⟩, v', hrest, h⟩ := Run.exists_of_bind h
    cases h
    exact ih (hs.serve hlistener hserve) hrest

/-! ## Lines -/

/-- The lines that the requests ask to run. -/
def codes (rs : List Request) : List String := rs.filterMap Request.code?

/-- The lines of a history that starts with one are this one and, unless it crashes, those of the
    rest. -/
theorem lines_execute (s : Session (Interpreter Host)) (w : Script.Supply × Host) (code : String)
    (rest : List Request) :
    s.lines w (.execute code :: rest) =
      match execute Script.engine s code w with
      | .error crash => [.error crash]
      | .ok x => .ok ⟨x.1.1, w.2.since x.2.2, x.1.2.shouldExit⟩ :: x.1.2.lines x.2 rest := by
  rw [lines, serve]
  dsimp only
  cases execute Script.engine s code w with
  | error crash => rfl
  | ok x => rfl

/-- How lines go depends on nothing that is asked in between, and on nothing that linked
    sessions do not share. -/
theorem lines_eq (h : Linked s.live t.live) (hs : Sound listener s w.2)
    (ht : Sound listener' t v.2) (hlistener : ∀ l ∈ listener, l.acts = [])
    (hlistener' : ∀ l ∈ listener', l.acts = []) (rs : List Request) :
    s.lines w rs = t.lines v ((codes rs).map .execute) := by
  induction rs generalizing s t w v with
  | nil => rfl
  | cons r rest ih =>
    cases r with
    | execute code =>
      have hexecute := h.execute hs ht hlistener hlistener' code
      change _ = t.lines v (.execute code :: (codes rest).map .execute)
      rw [lines_execute, lines_execute]
      generalize hs' : Session.execute Script.engine s code w = x,
        ht' : Session.execute Script.engine t code v = y at hexecute
      cases hexecute with
      | failed crash => rfl
      | returned hxy =>
        obtain ⟨hmode, happended, hexit, hlive⟩ := hxy
        dsimp only
        rw [hmode, happended, hexit,
          ih hlive (hs.of_execute hlistener hs') (ht.of_execute hlistener' ht')]
    -- The other requests run no line and leave the live instance as it is.
    | takeOutput => exact ih h (hs.serve hlistener (r := .takeOutput) rfl) ht
    | clearOutput => exact ih h (hs.serve hlistener (r := .clearOutput) rfl) ht
    | readOutput => exact ih h hs ht

/-- The first lines go as they go alone. -/
theorem lines_take (s : Session (Interpreter Host)) (w : Script.Supply × Host)
    (sources : List String) (n : Nat) :
    (s.lines w (sources.map .execute)).take n = s.lines w ((sources.take n).map .execute) := by
  induction sources generalizing s w n with
  | nil => cases n <;> rfl
  | cons code rest ih =>
    cases n with
    | zero => rfl
    | succ n =>
      rw [List.take_succ_cons, List.map_cons, List.map_cons, lines_execute, lines_execute]
      cases execute Script.engine s code w with
      | error crash => exact List.take_succ_cons.trans (congrArg _ List.take_nil)
      | ok x => exact List.take_succ_cons.trans (congrArg _ (ih x.1.2 x.2 n))

/-- The first `n` lines go the same in two histories that have the first `n` sources in common. -/
theorem lines_congr (h : Linked s.live t.live) (hs : Sound listener s w.2)
    (ht : Sound listener' t v.2) (hlistener : ∀ l ∈ listener, l.acts = [])
    (hlistener' : ∀ l ∈ listener', l.acts = []) {rs rs' : List Request} {n : Nat}
    (hcodes : (codes rs).take n = (codes rs').take n) :
    (s.lines w rs).take n = (t.lines v rs').take n := by
  have htt : Linked t.live t.live := ht.linked
  rw [lines_eq h hs ht hlistener hlistener' rs, lines_eq htt ht ht hlistener' hlistener' rs',
    lines_take, lines_take, hcodes]

theorem serveAll_cons {r : Request} {answer : Answer} {s' : Session (Interpreter Host)}
    {w' : Script.Supply × Host} {rest : List Request} {answers : List Answer}
    (h : s.serve r w = .ok ((answer, s'), w'))
    (hrest : s'.serveAll rest w' = .ok ((answers, t), v)) :
    s.serveAll (r :: rest) w = .ok ((answer :: answers, t), v) := by
  change (s.serve r w >>= fun x => (x.1.2.serveAll rest >>= _ : Run _ _) x.2) = _
  rw [h]
  change (s'.serveAll rest w' >>= fun y => .ok ((answer :: y.1.1, y.1.2), y.2)) = _
  rw [hrest]
  rfl

/-- After the output was dropped it holds what a line appends, and this is what it would have
    appended to the output as it was. -/
theorem output_after_clear (hs : Sound listener s w.2) (hlistener : ∀ l ∈ listener, l.acts = [])
    {code : String} {mode : InputMode}
    (h : Session.execute Script.engine s code w = .ok ((mode, t), v)) :
    ∃ t' v', s.serveAll [.clearOutput, .execute code] w =
        .ok (([.done, .line ⟨mode, w.2.since v.2, t.shouldExit⟩], t'), v') ∧
      v'.2.output.text = w.2.since v.2 := by
  -- The session is linked with itself, so the line goes alike on the host as it was and on the
  -- host whose output was dropped.
  have hclear : s.serve .clearOutput w = .ok ((.done, s), (w.1, w.2.clearOutput)) := rfl
  have hs' := hs.serve hlistener hclear
  have hexecute := hs.linked.execute hs hs' hlistener hlistener code
  rw [h] at hexecute
  generalize hv : Session.execute Script.engine s code (w.1, w.2.clearOutput) = y at hexecute
  cases hexecute with
  | @returned _ y hxy =>
    obtain ⟨⟨mode', t'⟩, v'⟩ := y
    obtain ⟨hmode, happended, hexit, -⟩ := hxy
    dsimp only at hmode happended hexit
    refine ⟨t', v', serveAll_cons hclear (serveAll_cons ?_ rfl), ?_⟩
    · change (Session.execute Script.engine s code (w.1, w.2.clearOutput)).map _ = _
      rw [hv, hmode, happended, hexit]
      rfl
    · rw [happended, Host.since_of_empty rfl]

/-- What holds of every session that was opened on a host whose listener, if there is one, does
    not touch the output, after any history of requests. A line of input crashes if its run
    does. Otherwise it appends exactly the chunks printed while it ran and then its echo, which
    a listener hears; the flag is set if it asked to end the session, and no exception is left
    behind. How the first lines go depends on their sources alone, in this session and in any
    other; and after the output was dropped it holds the text of the next line alone. -/
theorem session_law {config : Config} {w₀ w₁ : Script.Supply × Host}
    {s₀ : Session (Interpreter Host)} (hlistener : ∀ l ∈ w₀.2.output.listener, l.acts = [])
    (hopen : openWith Script.engine config w₀ = .ok (.ok s₀, w₁)) :
    (∀ rs answers s w, s₀.serveAll rs w₁ = .ok ((answers, s), w) → ∀ code,
      ((∃ crash, s.live.input (modeOf code) code w.2 = .error crash ∧
          execute Script.engine s code w = .error crash) ∨
        ∃ completion live host deeds s' h' events,
          s.live.input (modeOf code) code w.2 = .ok ((completion, live), host) ∧
          s.live.deeds? (modeOf code) code w.2 = some deeds ∧
          execute Script.engine s code w = .ok ((modeOf code, s'), (w.1, h')) ∧
          h'.output.text = w.2.output.text ++ (printed deeds ++ echo completion) ∧
          (s'.shouldExit = true ↔ completion = .exit) ∧ s'.live.pending = none ∧
          h'.events = w.2.events ++ events ∧
          (w₀.2.output.listener.isSome = true →
            String.join (Event.chunks events) = printed deeds ++ echo completion)) ∧
      ∀ mode s' w', execute Script.engine s code w = .ok ((mode, s'), w') →
        ∃ s'' w'', s.serveAll [.clearOutput, .execute code] w =
            .ok (([.done, .line ⟨mode, w.2.since w'.2, s'.shouldExit⟩], s''), w'') ∧
          w''.2.output.text = w.2.since w'.2) ∧
    ∀ config' v₀ v₁ t₀, (∀ l ∈ v₀.2.output.listener, l.acts = []) →
      openWith Script.engine config' v₀ = .ok (.ok t₀, v₁) →
      ∀ rs rs' n, (codes rs).take n = (codes rs').take n →
        (s₀.lines w₁ rs).take n = (t₀.lines v₁ rs').take n := by
  have hsound := openWith_sound hopen
  refine ⟨fun rs answers s w hrs code => ⟨?_, ?_⟩, ?_⟩
  -- Whatever was asked before, the session is still sound, and this is a line of a sound session.
  · have hs := hsound.serveAll hlistener hrs
    rcases hs.execute hlistener code with hcrash |
      ⟨completion, live, host, deeds, s', h', hrun, hdeeds, hexecute, hgrown, hexit, hlive, -⟩
    · exact .inl hcrash
    · obtain ⟨events, hevents, hheard⟩ := hgrown.events
      rw [hs.listener] at hheard
      refine .inr ⟨completion, live, host, deeds, s', h', events, hrun, hdeeds, hexecute,
        hgrown.text, ?_, ?_, hevents, hheard⟩
      · rw [hexit, beq_iff_eq]
      · rw [hlive]
        rfl
  · intro mode s' w' hexecute
    exact output_after_clear (hsound.serveAll hlistener hrs) hlistener hexecute
  · intro config' v₀ v₁ t₀ hlistener' hopen' rs rs' n hcodes
    refine lines_congr ?_ hsound (openWith_sound hopen') hlistener hlistener' hcodes
    rw [(openWith_live hopen).1, (openWith_live hopen').1]
    exact openedLive_linked config config'

/-- A session that a quiet listener hears, whose output is taken before a line or read after. -/
theorem session_law_listening :
    (∀ l ∈ (Host.listening {}).output.listener, l.acts = []) ∧
    ∃ s₀ w₁, openWith Script.engine {} ({}, Host.listening {}) = .ok (.ok s₀, w₁) ∧
      (s₀.lines w₁ [.takeOutput, .execute "1 + 2"]).take 1 =
        (s₀.lines w₁ [.execute "1 + 2", .readOutput]).take 1 := by
  have hquiet : ∀ l ∈ (Host.listening {}).output.listener, l.acts = [] := by
    rintro l ⟨⟩
    rfl
  refine ⟨hquiet, _, _, rfl, ?_⟩
  have hopen : openWith Script.engine {} ({}, Host.listening {}) = .ok (.ok _, _) := rfl
  exact (session_law hquiet hopen).2 _ _ _ _ hquiet hopen _ _ 1 rfl

end LedBoard.Session
