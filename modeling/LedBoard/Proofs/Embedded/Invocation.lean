import LedBoard.ActionMachine.Library
import LedBoard.Proofs.Embedded.Lifetime
import LedBoard.Proofs.Text.Octets

/-!
# Calls from a machine

When a machine calls a native function, its objects become values, the function runs once, and
its outcome goes back: the object of the value that it returned, or nothing, and then an
exception was raised. This is so for every machine that makes objects which it can read back
(`Library.Faithful`).

* `Value.crossed`: what is left of a value that crosses into the machine and back;
* `Library.Faithful.ofValue`: an object that is made of a value is read as just that;
* `Raises`: the exception that a refusal becomes;
* `Answers`: what a call gives back and raises, for each way in which the function can end;
* `calls_cross`: the calls of a function that was bound, at any time after.
-/

namespace LedBoard

/-! ## Values that cross -/

namespace Value

/-- What is left of a value that crosses into a machine and back: a text loses its NUL
    characters, and what is known by the name of its type only becomes none. -/
def crossed : Value → Value
  | .str s => .str (Text.withoutNul s)
  | .object _ => .none
  | v => v

/-- A text among values has a number of octets that can be said in 32 bits with a sign. -/
def Short : Value → Prop
  | .str s => (Text.encode s).length < 2 ^ 31
  | _ => True

/-- What has crossed once is not changed by crossing again. -/
theorem crossed_crossed (v : Value) : v.crossed.crossed = v.crossed := by
  cases v with
  | str s =>
    rw [crossed, crossed, Text.withoutNul, Text.withoutNul, String.toList_ofList,
      List.filter_filter]
    simp only [Bool.and_self]
  | _ => rfl

theorem crossed_str {s : String} (h : Text.holdsNul s = false) : (str s).crossed = str s := by
  have hne : ∀ c ∈ s.toList, (c != Text.nul) = true := by
    intro c hc
    rw [bne_iff_ne]
    rintro rfl
    rw [Text.holdsNul, List.contains_iff_mem.2 hc] at h
    cases h
  rw [crossed, Text.withoutNul, List.filter_eq_self.2 hne, String.ofList_toList]

theorem Short.crossed {v : Value} (h : v.Short) : v.crossed.Short := by
  cases v with
  | str s => exact (Text.length_encode_withoutNul_le s).trans_lt h
  | _ => exact h

end Value

theorem Text.holdsNul_withoutNul (s : String) : holdsNul (withoutNul s) = false := by
  rw [holdsNul, withoutNul, String.toList_ofList, Bool.eq_false_iff, ne_eq, List.contains_iff_mem]
  intro hmem
  exact bne_iff_ne.1 (List.mem_filter.1 hmem).2 rfl

/-- The numbers in a refusal can be said in 32 bits with a sign. -/
def ScriptError.InRange : ScriptError → Prop
  | .argumentCount expected given => expected < 2 ^ 31 ∧ given < 2 ^ 31
  | .argumentType index _ _ => index < 2 ^ 31
  | .value _ => True

namespace Embedded

variable {L O : Type} {lib : Library L O} {a : Address}

/-! ## Objects that can be read back -/

/-- The operation makes an object, whatever the machine keeps, and all that it makes are such. -/
def Makes (op : StateM L (Option O)) (P : O → Prop) : Prop :=
  ∀ l, ∃ o l', op l = (some o, l') ∧ P o

/-- Objects are made of all values, and the machine answers the questions about their kinds
    rightly and gives the values back. -/
structure Library.Faithful (lib : Library L O) (a : Address) : Prop where
  none : Makes (lib.newNone a) fun o => lib.isNone o = true
  bool : ∀ b, Makes (lib.newBool a b) fun o =>
    lib.isNone o = false ∧ lib.isBool o = true ∧ lib.getBool o = b
  int : ∀ n, Makes (lib.newInt a n) fun o =>
    lib.isNone o = false ∧ lib.isBool o = false ∧ lib.isInt o = true ∧ lib.getInt o = n
  float : ∀ x, Makes (lib.newFloat a x) fun o =>
    lib.isNone o = false ∧ lib.isBool o = false ∧ lib.isInt o = false ∧ lib.isNumber o = true ∧
      lib.getFloat o = x
  string : ∀ s, Text.holdsNul s = false → (Text.encode s).length < 2 ^ 31 →
    Makes (lib.newString a s) fun o =>
      lib.isNone o = false ∧ lib.isBool o = false ∧ lib.isInt o = false ∧ lib.isNumber o = false ∧
        lib.isString o = true ∧ lib.getString o = some (Text.encode s)

/-- An object that is made of a value is read as what is left of the value. -/
theorem Library.Faithful.ofValue (h : lib.Faithful a) {v : Value} (hv : v.Short) :
    Makes (lib.ofValue a v) fun o => lib.toValue o = v.crossed := by
  intro l
  -- The kinds are asked for in a fixed order, so each has to be told from those before it.
  -- The kinds are asked for in a fixed order, so each has to be told from those before it.
  cases v with
  | none | object _ =>
    obtain ⟨o, l', hmake, hnone⟩ := h.none l
    refine ⟨o, l', hmake, ?_⟩
    simp only [toValue, hnone, Value.crossed, if_true]
  | bool b =>
    obtain ⟨o, l', hmake, hnone, hbool, hget⟩ := h.bool b l
    refine ⟨o, l', hmake, ?_⟩
    simp only [toValue, hnone, hbool, hget, Value.crossed, Bool.false_eq_true, if_true, if_false]
  | int n =>
    obtain ⟨o, l', hmake, hnone, hbool, hint, hget⟩ := h.int n l
    refine ⟨o, l', hmake, ?_⟩
    simp only [toValue, hnone, hbool, hint, hget, Value.crossed, Bool.false_eq_true, if_true,
      if_false]
  | float x =>
    obtain ⟨o, l', hmake, hnone, hbool, hint, hnumber, hget⟩ := h.float x l
    refine ⟨o, l', hmake, ?_⟩
    simp only [toValue, hnone, hbool, hint, hnumber, hget, Value.crossed, Bool.false_eq_true,
      if_true, if_false]
  | str s =>
    obtain ⟨o, l', hmake, hnone, hbool, hint, hnumber, hstring, hget⟩ :=
      h.string (Text.withoutNul s) (Text.holdsNul_withoutNul s) hv.crossed l
    have htext : lib.textOf o = Text.withoutNul s := by
      rw [textOf, hget, Option.map_some, Option.getD_some, Text.decodeLossy_encode]
    refine ⟨o, l', hmake, ?_⟩
    simp only [toValue, hnone, hbool, hint, hnumber, hstring, htext, Value.crossed,
      Bool.false_eq_true, if_true, if_false]

/-- The log says which object was made. -/
theorem recorded_ofValue (v : Value) :
    lib.recorded.ofValue a v = record (fun _ => .newObject a v.crossed) (lib.ofValue a v) := by
  cases v <;> rfl

/-! ## Exceptions that are raised -/

/-- An exception is raised. -/
def Request.raises : Request O → Bool
  | .raiseArgumentCount .. | .raiseArgumentType .. | .raiseClass .. => true
  | _ => false

/-- The exceptions that were raised, in order. -/
def raised (log : List (Request O)) : List (Request O) := log.filter Request.raises

/-- What is asked to raise the exception that a refusal becomes, where `valueError` is the class
    of the exceptions about values. -/
inductive Raises (a : Address) (valueError : O) : ScriptError → Request O → Prop
  | argumentCount {expected given : Nat} {e g : Int32} (he : e.toInt = expected)
      (hg : g.toInt = given) :
      Raises a valueError (.argumentCount expected given) (.raiseArgumentCount a g e)
  | argumentType {index : Nat} {i : Int32} (hi : i.toInt = index) (expected : ArgumentKind)
      (found : String) :
      Raises a valueError (.argumentType index expected found)
        (.raiseArgumentType a i expected.name)
  | value (message : String) :
      Raises a valueError (.value message) (.raiseClass a valueError (Text.withoutNul message))

/-- Raising an instance of a class that is there raises this one exception. -/
theorem raiseNamed_apply {w : World (Recorded L O)} {className : String} {c : O}
    (hc : (lib.getGlobal a className w.1.library.inner).1 = some c) (message : String) :
    ∃ l, onLibrary (lib.recorded.raiseNamed a className message) w = .ok ((), w.asked l
      [.getGlobal a className (some c), .raiseClass a c (Text.withoutNul message)]) := by
  cases hget : lib.getGlobal a className w.1.library.inner with
  | mk answer l =>
    rw [hget] at hc
    obtain rfl : answer = some c := hc
    have hfound : onLibrary (lib.recorded.getGlobal a className) w =
        .ok (some c, w.asked l [.getGlobal a className (some c)]) :=
      onLibrary_record_of_eq hget
    refine ⟨(lib.raiseClass a c (Text.withoutNul message) l).2, ?_⟩
    rw [Library.raiseNamed, onLibrary_bind, Run.bind_of_ok hfound]
    exact onLibrary_record_asked (fun _ => .raiseClass a c (Text.withoutNul message)) _ w l _

/-- A refusal raises one exception. -/
theorem raise_apply {w : World (Recorded L O)} {valueError : O}
    (hclass : (lib.getGlobal a "ValueError" w.1.library.inner).1 = some valueError)
    {e : ScriptError} (he : e.InRange) :
    ∃ l xs x, onLibrary (lib.recorded.raise a e) w = .ok ((), w.asked l xs) ∧ raised xs = [x] ∧
      Raises a valueError e x := by
  cases e with
  | argumentCount expected given =>
    exact ⟨_, _, _, rfl, rfl,
      .argumentCount (Int32.toInt_ofNat_of_lt he.1) (Int32.toInt_ofNat_of_lt he.2)⟩
  | argumentType index expected found =>
    exact ⟨_, _, _, rfl, rfl, .argumentType (Int32.toInt_ofNat_of_lt he) expected found⟩
  | value message =>
    obtain ⟨l, hraise⟩ := raiseNamed_apply hclass message
    exact ⟨l, _, _, hraise, rfl, .value message⟩

/-! ## Calls -/

/-- How a native function ended, and the host that it left behind if it did not crash. -/
abbrev Outcome := Except Crash (Except ScriptError Value × Host)

/-- What goes back to the machine can be said in 32 bits with a sign where it has to be. -/
def Outcome.Fits : Outcome → Prop
  | .ok (.ok v, _) => v.Short
  | .ok (.error e, _) => e.InRange
  | .error _ => True

/-- What a call gives back and raises, according to how the function ended, and the host after
    it; what a crash left of the host is not told. -/
inductive Answers (lib : Library L O) (a : Address) (valueError runtimeError : O) :
    Outcome → Option O → List (Request O) → Host → Prop
  | returned {v : Value} {o : O} (ho : lib.toValue o = v.crossed) (h : Host) :
      Answers lib a valueError runtimeError (.ok (.ok v, h)) (some o) [] h
  | refused {e : ScriptError} {x : Request O} (hx : Raises a valueError e x) (h : Host) :
      Answers lib a valueError runtimeError (.ok (.error e, h)) none [x] h
  | crashed (crash : Crash) (h : Host) :
      Answers lib a valueError runtimeError (.error crash) none
        [.raiseClass a runtimeError "native function panicked"] h

/-- Nothing comes back just if an exception was raised, and then it was one. -/
theorem Answers.eq_none_iff {valueError runtimeError : O} {outcome : Outcome} {r : Option O}
    {xs : List (Request O)} {h : Host}
    (hanswers : Answers lib a valueError runtimeError outcome r xs h) :
    r = none ↔ xs.length = 1 := by
  cases hanswers <;> simp

theorem guarded_of_ok {call : Call Host Value} {w : World L} {r : Except ScriptError Value}
    {h : Host} (hcall : call.run w.2 = .ok (r, h)) :
    guarded call w = .ok (some r, (w.1, h)) := by
  obtain ⟨shared, host⟩ := w
  rw [guarded, hcall]

/-- A function that crashes is stopped, and the host is the one from before the call. -/
theorem guarded_of_error {call : Call Host Value} {w : World L} {crash : Crash}
    (hcall : call.run w.2 = .error crash) : guarded call w = .ok (none, w) := by
  obtain ⟨shared, host⟩ := w
  rw [guarded, hcall]

/-- The function runs once, on the values of the arguments, and the call answers as it ended. -/
theorem calling_apply (hfaithful : lib.Faithful a) {w : World (Recorded L O)}
    {valueError runtimeError : O}
    (hvalue : (lib.getGlobal a "ValueError" w.1.library.inner).1 = some valueError)
    (hruntime : (lib.getGlobal a "RuntimeError" w.1.library.inner).1 = some runtimeError)
    (f : Native Host) (args : List O)
    (hfits : Outcome.Fits ((f (args.map lib.toValue)).run w.2)) :
    ∃ r w' xs, calling lib.recorded a f args args.length w = .ok (r, w') ∧ w'.log = w.log ++ xs ∧
      Answers lib a valueError runtimeError ((f (args.map lib.toValue)).run w.2) r (raised xs)
        w'.2 := by
  rw [calling, Int.toNat_natCast, List.take_length]
  change ∃ r w' xs, (guarded (f (args.map lib.toValue)) >>= _) w = _ ∧ _
  -- The function crashes, refuses or returns; in the first two cases one exception is raised.
  cases hrun : (f (args.map lib.toValue)).run w.2 with
  | error crash =>
    rw [Run.bind_of_ok (guarded_of_error hrun)]
    obtain ⟨l, hraise⟩ := raiseNamed_apply hruntime "native function panicked"
    exact ⟨none, _, _, Run.bind_of_ok hraise, rfl, .crashed crash _⟩
  | ok x =>
    rw [hrun] at hfits
    obtain ⟨result, h⟩ := x
    rw [Run.bind_of_ok (guarded_of_ok hrun)]
    cases result with
    | error e =>
      obtain ⟨l, xs, x, hraise, hxs, hx⟩ := raise_apply (w := (w.1, h)) hvalue hfits
      refine ⟨none, _, xs, Run.bind_of_ok hraise, rfl, ?_⟩
      rw [hxs]
      exact .refused hx h
    | ok v =>
      obtain ⟨o, l, hmake, ho⟩ := hfaithful.ofValue hfits w.1.library.inner
      have hmade : onLibrary (lib.recorded.ofValue a v) (w.1, h) =
          .ok (some o, World.asked (w.1, h) l [.newObject a v.crossed]) := by
        rw [recorded_ofValue]
        exact onLibrary_record_of_eq hmake
      exact ⟨some o, _, _, hmade, rfl, .returned ho h⟩

/-- What is answered whenever the machine calls an object that carries a ticket of the
    function. -/
structure Called (lib : Library L O) (a : Address) (ticket : Ticket) (f : Native Host)
    (w : World (Recorded L O)) : Prop where
  answers : ∀ l valueError runtimeError,
    lib.functionTicket a w.1.library.inner = (some ticket, l) →
    (lib.getGlobal a "ValueError" l).1 = some valueError →
    (lib.getGlobal a "RuntimeError" l).1 = some runtimeError →
    ∀ args : List O, Outcome.Fits ((f (args.map lib.toValue)).run w.2) →
    ∃ r w' xs, invoke lib.recorded a args args.length w = .ok (r, w') ∧
      w'.log = w.log ++ .functionTicket a (some ticket) :: xs ∧
      Answers lib a valueError runtimeError ((f (args.map lib.toValue)).run w.2) r (raised xs)
        w'.2 ∧
      (r = none ↔ (raised xs).length = 1)

theorem Filed.called {ticket : Ticket} {f : Native Host} {w : World (Recorded L O)}
    (hfiled : Filed lib a ticket f w) (hfaithful : lib.Faithful a) :
    Called lib a ticket f w where
  answers l valueError runtimeError hticket hvalue hruntime args hfits := by
    obtain ⟨r, w', xs, hrun, hlog, hanswers⟩ := calling_apply hfaithful
      (w := w.asked l [.functionTicket a (some ticket)]) hvalue hruntime f args hfits
    refine ⟨r, w', xs, (hfiled.invoke l args _ hticket).trans hrun, ?_, hanswers,
      hanswers.eq_none_iff⟩
    rw [hlog]
    exact List.append_assoc ..

/-- In a machine that makes objects which it can read back, a function that was bound is called
    from then on whenever the machine calls its object: it runs once, on the values of all
    arguments in order, and either it returned and the object of its value comes back, or nothing
    comes back and one exception was raised, according to how it refused or that it crashed. What
    is left of a value that crosses does not change when it crosses again. -/
theorem calls_cross (c : Conduct lib) (hfaithful : lib.Faithful a) :
    (∀ v t name f v', v.1.tables a = some t →
      bindFunction lib.recorded a name f v = .ok (true, v') →
      ∃ ticket o, v'.log = v.log ++ [.newFunction a ticket name (some o), .setGlobal a name o] ∧
        ∀ w, Later c a v' w → Called lib a ticket f w) ∧
    (∀ v : Value, v.Short → Makes (lib.ofValue a v) fun o =>
      lib.toValue o = v.crossed ∧
        Makes (lib.ofValue a (lib.toValue o)) fun o' => lib.toValue o' = lib.toValue o) ∧
    ∀ s, Text.holdsNul s = false → (Value.str s).crossed = .str s := by
  refine ⟨fun v t name f v' ht hbound => ?_, fun v hv l => ?_, fun s hs => Value.crossed_str hs⟩
  · obtain ⟨ticket, o, hlog, hfiled⟩ := filed_of_bound ht hbound
    exact ⟨ticket, o, hlog, fun w hw => (hfiled w hw).called hfaithful⟩
  · obtain ⟨o, l', hmake, ho⟩ := hfaithful.ofValue hv l
    refine ⟨o, l', hmake, ho, fun l => ?_⟩
    rw [ho]
    obtain ⟨o', l'', hmake', ho'⟩ := hfaithful.ofValue hv.crossed l
    exact ⟨o', l'', hmake', ho'.trans v.crossed_crossed⟩

/-- The action machine makes all objects, and reads them back. -/
theorem library_faithful (a : Address) : ActionMachine.library.Faithful a where
  none l := ⟨.none, _, rfl, rfl⟩
  bool b l := by
    refine ⟨.bool b, _, rfl, rfl, rfl, ?_⟩
    cases b <;> rfl
  int n l := ⟨.int n, _, rfl, rfl, rfl, rfl, rfl⟩
  float x l := ⟨.float x, _, rfl, rfl, rfl, rfl, rfl, rfl⟩
  string s _ _ l := ⟨.string (Text.encode s), _, rfl, rfl, rfl, rfl, rfl, rfl, rfl⟩

/-- A function that refuses all calls, with a text that holds a NUL character. -/
theorem calls_cross_refused :
    ∃ v' ticket l w' xs,
      bindFunction ActionMachine.library.recorded 0 "f" (Native.refuse "a\x00b")
        (oneContext {} { print := none }) = .ok (true, v') ∧
      invoke ActionMachine.library.recorded 0 [.int 1] 1 (v'.asked l []) = .ok (none, w') ∧
      w'.log = v'.log ++ .functionTicket 0 (some ticket) :: xs ∧
      raised xs = [.raiseClass 0 (.exceptionClass "ValueError") "ab"] := by
  obtain ⟨v', hbound⟩ : ∃ v', bindFunction ActionMachine.library.recorded 0 "f"
      (Native.refuse "a\x00b") (oneContext {} { print := none }) = .ok (true, v') := ⟨_, rfl⟩
  obtain ⟨ticket, o, -, hcalled⟩ := (calls_cross ones (library_faithful 0)).1
    (oneContext {} { print := none }) {} "f" _ v' rfl hbound
  -- The machine calls the object: it makes the ticket known.
  let calling := (oneContext {} { print := none, called := some ticket }).1.library.inner
  obtain ⟨r, w', xs, hrun, hlog, hanswers, -⟩ :=
    (hcalled _ (.midst (.asked v' calling []))).answers _ _ _ rfl rfl rfl [.int 1] trivial
  rw [show (v'.asked calling []).log = v'.log from List.append_nil _] at hlog
  generalize hxs : raised xs = raisings at hanswers
  generalize w'.2 = h at hanswers
  cases hanswers with
  | refused hx =>
    cases hx with
    | value => exact ⟨v', ticket, calling, w', xs, hbound, hrun, hlog, hxs⟩

end Embedded

end LedBoard
