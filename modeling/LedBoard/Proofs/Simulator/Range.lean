import LedBoard.Proofs.Simulator.History

/-!
# Nothing out of range leaves the board

The display takes whatever it is sent. What keeps it sound is that the board sends dots of the
display only, whether a script sets them, the board is used directly, or a text is drawn; and a
dot that is set is the one that was named, since numbers of 64 bits that name a dot fit into an
octet.

* `nothing_out_of_range`: the commands, the display and its rendering at every moment.
-/

namespace LedBoard.Simulator

variable {config : Config} {first h : Host}

/-- At every moment the display is the one that the commands sent so far lead to. -/
theorem Moment.leds (hleds : first.leds = .blank) (htrace : first.trace = #[])
    (hm : Moment config first h) : h.leds = Leds.blank.replay (Event.commands h.events) := by
  obtain ⟨sent, hsent, -⟩ := hm.sent
  -- The settings of a session touch neither the trace nor the display.
  have hempty : (first.configured config).events = [] := congrArg Array.toList htrace
  have hblank : (first.configured config).leds = .blank := hleds
  rw [hsent.leds, hsent.commands, hempty, hblank]
  rfl

/-- Every command that a board has sent at a moment is in range. -/
theorem Moment.inRange (htrace : first.trace = #[]) (hm : Moment config first h) {c : Command}
    (hc : c ∈ Event.commands h.events) : c.InRange := by
  obtain ⟨sent, hsent, hrange⟩ := hm.sent
  have hempty : (first.configured config).events = [] := congrArg Array.toList htrace
  rw [hsent.commands, hempty] at hc
  exact hrange c hc

/-- A dot that is set directly is sent with exactly the numbers given. -/
theorem setPixel_exact {x y brightness : Int64} {h' : Host}
    (hset : h.setPixel x y brightness = .ok h') :
    ∃ column row v, Event.commands h'.events = Event.commands h.events ++ [.setPixel column row v] ∧
      (column.toNat : Int) = x.toInt ∧ (row.toNat : Int) = y.toInt ∧
      (v.toNat : Int) = brightness.toInt := by
  by_cases hdot : IsDot x y brightness
  · rw [h.setPixel_of_isDot hdot] at hset
    cases hset
    obtain ⟨column, row, v, heq, hexact⟩ := hdot.toNat_eq
    exact ⟨column, row, v, heq ▸ (h.emit_sent _).commands, hexact⟩
  · obtain ⟨e, he⟩ := Host.setPixel_of_not_isDot hdot
    rw [he] at hset
    cases hset

/-- So is a dot that a script sets; only an animation sets dots besides. -/
theorem exact_of_mem_commands {frameMs : UInt64} {d : Deed} {column row v : UInt8}
    (hc : .setPixel column row v ∈ d.commands frameMs) :
    (∃ x y brightness, d = .called "set_pixel" [.int x, .int y, .int brightness] ∧
      (column.toNat : Int) = x.toInt ∧ (row.toNat : Int) = y.toInt ∧
      (v.toNat : Int) = brightness.toInt) ∨ ∃ text, d = .called "scroll" [.str text] := by
  rcases Deed.cases_of_mem_commands hc with ⟨x, y, brightness, hd, hdot, heq⟩ | heq | ⟨text, hd, -⟩
  · obtain ⟨_, _, _, heq', hexact⟩ := hdot.toNat_eq
    cases heq.trans heq'
    exact .inl ⟨x, y, brightness, hd, hexact⟩
  · cases heq
  · exact .inr ⟨text, hd⟩

/-- What holds at every moment in the history of a board that starts with a blank display,
    whatever programs it has run and however it was used between them. All dots ever set are dots
    of the display; the display is the one that the commands sent so far lead to; none of its
    dots is brighter than nine; and rendered it is five rows of five signs, each a point or a
    digit from one to nine. A dot set directly is sent with exactly the numbers given. What a
    program sends, until right after any of its calls and until its end, are the commands of its
    calls, in their order; and these set a dot with exactly the numbers of the call, or draw a
    text. -/
theorem nothing_out_of_range (hleds : first.leds = .blank) (htrace : first.trace = #[])
    (hm : Moment config first h) :
    (∀ x y brightness, .setPixel x y brightness ∈ Event.commands h.events →
      x ≤ 4 ∧ y ≤ 4 ∧ brightness ≤ 9) ∧
    h.leds = Leds.blank.replay (Event.commands h.events) ∧
    (∀ x y, h.leds.brightness x y ≤ 9) ∧
    (∃ rows : List (List Char), h.leds.render = .ofList (rows.flatMap (· ++ ['\n'])) ∧
      rows.length = 5 ∧ ∀ row ∈ rows, row.length = 5 ∧ ∀ c ∈ row, c = '.' ∨ '1' ≤ c ∧ c ≤ '9') ∧
    (∀ x y brightness h', h.setPixel x y brightness = .ok h' →
      ∃ column row v,
        Event.commands h'.events = Event.commands h.events ++ [.setPixel column row v] ∧
        (column.toNat : Int) = x.toInt ∧ (row.toNat : Int) = y.toInt ∧
        (v.toNat : Int) = brightness.toInt) ∧
    (∀ code n deeds h',
      (program config).midway? .statements code n (started code h) = some (deeds, h') →
      Event.commands h'.events =
        Event.commands h.events ++ deeds.flatMap (Deed.commands config.scrollFrameMs)) ∧
    (∀ code supply outcome w, run Script.engine config code (supply, h) = .ok (.ok outcome, w) →
      ∃ deeds, (program config).deeds? .statements code (started code h) = some deeds ∧
        Event.commands w.2.events =
          Event.commands h.events ++ deeds.flatMap (Deed.commands config.scrollFrameMs)) ∧
    ∀ d column row v, .setPixel column row v ∈ Deed.commands config.scrollFrameMs d →
      (∃ x y brightness, d = .called "set_pixel" [.int x, .int y, .int brightness] ∧
        (column.toNat : Int) = x.toInt ∧ (row.toNat : Int) = y.toInt ∧
        (v.toNat : Int) = brightness.toInt) ∨ ∃ text, d = .called "scroll" [.str text] := by
  -- The display is replayed from the commands, which keeps every dot within nine.
  have hbrightness : ∀ x y, h.leds.brightness x y ≤ 9 := by
    rw [hm.leds hleds htrace]
    refine Leds.brightness_replay (fun x y => ?_) _
    rw [Leds.brightness_blank]
    decide
  refine ⟨fun _ _ _ hc => hm.inRange htrace hc, hm.leds hleds htrace, hbrightness,
    Leds.exists_rows hbrightness, fun _ _ _ _ hset => setPixel_exact hset, ?_, ?_,
    fun _ _ _ _ hc => exact_of_mem_commands hc⟩
  · intro code n deeds h' hmidway
    have hdone := midway_done hmidway
    rw [← hm.frameMs]
    exact ((started_sent code h).trans hdone).commands
  · intro code supply outcome w hrun
    rcases run_done hrun with ⟨_, hresult, -⟩ | ⟨_, deeds, -, hdeeds, hdone⟩
    · cases hresult
    · rw [← hm.frameMs]
      exact ⟨deeds, hdeeds, hdone.commands⟩

/-- In the middle of an animation that began when a dot in the last corner was lit. -/
theorem nothing_out_of_range_scrolling :
    let lit := (({} : Host).configured {}).emit (.command (.setPixel 4 4 9))
    let h := lit.emitAll (((Scroll.film "A".toList 200).take 20).map Stroke.event)
    ({} : Host).leds = .blank ∧ ({} : Host).trace = #[] ∧ Moment {} {} h ∧
      (∀ x y brightness, .setPixel x y brightness ∈ Event.commands h.events →
        x ≤ 4 ∧ y ≤ 4 ∧ brightness ≤ 9) ∧
      h.leds = Leds.blank.replay (Event.commands h.events) ∧
      ∀ x y, h.leds.brightness x y ≤ 9 := by
  intro lit h
  have hlit : Moment {} {} lit :=
    .served (s := {}) (r := .use (.setPixel 4 4 9)) .first rfl
  have hm : Moment {} {} h := hlit.scrolled "A" 20
  obtain ⟨hsent, hleds, hbrightness, -⟩ := nothing_out_of_range rfl rfl hm
  exact ⟨rfl, rfl, hm, hsent, hleds, hbrightness⟩

end LedBoard.Simulator
