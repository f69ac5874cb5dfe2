import LedBoard.Proofs.Sensors.Latch
import LedBoard.Proofs.Simulator.Program

/-!
# The history of a board

A board serves requests: it runs programs one after the other, and between them it is used
directly, the page publishes readings, and the output is read (`serve`). A *moment* of its history
is not only the time after a request, but also the middle of one: when a program has started,
right after each of its calls, after what is printed between them, and after each stroke of an
animation (`Moment`).

* `Moment.sent`: up to any moment, all commands sent are in range.
-/

namespace LedBoard.Simulator

/-- What can be done with a board between programs. -/
inductive Use
  | sensors (r : Sensors.Request)
  | setPixel (x y brightness : Int64)
  | clearDisplay
  | scroll (text : String)
  | soundLevel
  | sleep (ms : UInt64)
  | takeOutput
  | clearOutput
  | listen (l : Output.Listener)

/-- What a use makes of the host. -/
def Use.act (h : Host) : Use → Host
  | .sensors r => { h with sensors := (h.sensors.serve r).2 }
  | .setPixel x y brightness => (h.setPixel x y brightness).toOption.getD h
  | .clearDisplay => h.clearDisplay
  | .scroll text => (h.scroll text).2
  | .soundLevel => h.soundLevel.2
  | .sleep ms => h.sleep ms
  | .takeOutput => h.takeOutput.2
  | .clearOutput => h.clearOutput
  | .listen l => { h with output := h.output.listen l }

/-- What can be asked of a board. -/
inductive Request
  | run (code : String)
  | use (u : Use)

/-- Serves a request. -/
def serve (config : Config) : Request → Run (Script.Supply × Host) Unit
  | .run code => do let _ ← run Script.engine config code
  | .use u => Run.onHost fun h => ((), u.act h)

/-- The moments in the history of a board with settings that starts on the host `first`. -/
inductive Moment (config : Config) (first : Host) : Host → Prop
  | first : Moment config first (first.configured config)
  | served {h h' : Host} (hm : Moment config first h) {s s' : Script.Supply} {r : Request}
      (hserve : serve config r (s, h) = .ok ((), (s', h'))) : Moment config first h'
  | started {h : Host} (hm : Moment config first h) (code : String) :
      Moment config first (started code h)
  | midway {h h' : Host} (hm : Moment config first h) {code : String} {n : Nat}
      {deeds : List Deed}
      (hmidway : (program config).midway? .statements code n h = some (deeds, h')) :
      Moment config first h'
  | printed {h : Host} (hm : Moment config first h) (chunk : String) :
      Moment config first (h.print chunk)
  | scrolled {h : Host} (hm : Moment config first h) (text : String) (n : Nat) :
      Moment config first
        (h.emitAll (((Scroll.film text.toList h.frameMs).take n).map Stroke.event))

/-- Commands in range were sent. -/
def SentInRange (h h' : Host) : Prop := ∃ sent, h.Sent sent h' ∧ ∀ c ∈ sent, c.InRange

namespace SentInRange

variable {h₀ h h' : Host}

theorem of_nothing (h : h₀.Sent [] h') : SentInRange h₀ h' := ⟨[], h, List.forall_mem_nil _⟩

theorem refl (h : Host) : SentInRange h h := of_nothing (.refl h)

/-- Where the commands of two parts are in range, those of both are. -/
theorem trans (h₁ : SentInRange h₀ h) (h₂ : SentInRange h h') : SentInRange h₀ h' := by
  obtain ⟨a, ha, ha'⟩ := h₁
  obtain ⟨b, hb, hb'⟩ := h₂
  exact ⟨a ++ b, ha.trans hb, List.forall_mem_append.2 ⟨ha', hb'⟩⟩

theorem of_done {deeds : List Deed} (hdone : Done h deeds h') : SentInRange h h' := by
  refine ⟨_, hdone, fun c hc => ?_⟩
  obtain ⟨d, -, hc⟩ := List.mem_flatMap.1 hc
  exact Deed.inRange hc

/-- The commands of a film are in range, also if it is cut off anywhere. -/
theorem of_film (h : Host) (text : String) {strokes : List Stroke}
    (hstrokes : ∀ s ∈ strokes, s ∈ Scroll.film text.toList h.frameMs) :
    SentInRange h (h.emitAll (strokes.map Stroke.event)) :=
  ⟨_, h.emitAll_sent _, fun _ hc => Scroll.inRange_of_film hstrokes hc⟩

/-- A dot that is set directly is in range, or is refused and nothing is sent. -/
theorem setPixel (h : Host) (x y brightness : Int64) :
    SentInRange h ((h.setPixel x y brightness).toOption.getD h) := by
  by_cases hdot : IsDot x y brightness
  · rw [h.setPixel_of_isDot hdot]
    exact ⟨_, h.emit_sent _, List.forall_mem_singleton.2 hdot.inRange⟩
  · obtain ⟨e, he⟩ := Host.setPixel_of_not_isDot hdot
    rw [he]
    exact .refl h

/-- Whatever is done with a board between two programs, it sends commands in range only. -/
theorem act (h : Host) (u : Use) : SentInRange h (u.act h) := by
  cases u with
  | setPixel x y brightness => exact .setPixel h x y brightness
  | clearDisplay => exact ⟨_, h.emit_sent (.command .clearDisplay), List.forall_mem_singleton.2 trivial⟩
  | scroll text => exact .of_film h text fun _ hs => hs
  | soundLevel =>
    obtain ⟨n, sensors, hasks⟩ := Devices.soundLevel_asks h.setting
    rw [Use.act, hasks h rfl]
    exact .of_nothing (.of_eq rfl rfl rfl rfl)
  | sleep ms => exact .of_nothing (h.emit_sent (.pause ms))
  | _ => exact .of_nothing (.of_eq rfl rfl rfl rfl)

/-- So it is with whatever is asked of it, programs included. -/
theorem serve {config : Config} {r : Request} {w w' : Script.Supply × Host}
    (hserve : serve config r w = .ok ((), w')) : SentInRange w.2 w'.2 := by
  cases r with
  | run code =>
    obtain ⟨result, w'', hrun, hpure⟩ := Run.exists_of_bind hserve
    cases hpure
    rcases run_done hrun with ⟨_, -, hhost⟩ | ⟨_, _, -, -, hdone⟩
    · rw [hhost]
      exact .refl _
    · exact .of_done hdone
  | use u =>
    cases hserve
    exact act w.2 u

end SentInRange

/-- Up to any moment, all commands sent are in range. -/
theorem Moment.sent {config : Config} {first h : Host} (hm : Moment config first h) :
    SentInRange (first.configured config) h := by
  induction hm with
  | first => exact .refl _
  | served _ hserve ih => exact ih.trans (.serve hserve)
  | started _ code ih => exact ih.trans (.of_nothing (started_sent code _))
  | midway _ hmidway ih => exact ih.trans (.of_done (midway_done hmidway))
  | printed _ chunk ih => exact ih.trans (.of_nothing (Host.print_sent _ chunk))
  | scrolled _ text n ih => exact ih.trans (.of_film _ text fun _ hs => List.mem_of_mem_take hs)

/-- The settings stay. -/
theorem Moment.microphone {config : Config} {first h : Host} (hm : Moment config first h) :
    h.microphone = config.microphone := by
  obtain ⟨_, hsent, -⟩ := hm.sent
  exact hsent.microphone

/-- The time of a frame is the configured one at every moment. -/
theorem Moment.frameMs {config : Config} {first h : Host} (hm : Moment config first h) :
    h.frameMs = config.scrollFrameMs := by
  obtain ⟨_, hsent, -⟩ := hm.sent
  exact hsent.frameMs

end LedBoard.Simulator
