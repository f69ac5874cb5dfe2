/-!
# Collected output

Everything a session prints is collected in a buffer until the host takes it. A buffer may have
a listener, which is told every chunk when it has been appended. What a listener does then is a
list of acts on the buffer it listens to: append, take, clear, or install a quiet listener, one
that does nothing further.

A listener is out of its place while it acts, so it is never told of what it appends itself. A
quiet listener that it installs is in place at once, is told of what is appended from then on,
and stays; if none was installed, the acting listener gets its place back.

* `Buffer.append`: appends a chunk and tells the listener; an empty chunk does nothing;
* `Buffers`: several handles, of which some share a buffer.
-/

namespace LedBoard.Output

/-- What a listener can do with the buffer it listens to. -/
inductive Act
  | append (text : String)
  | take
  | clear
  /-- Puts a quiet listener of this name in place. -/
  | install (name : String)
  deriving DecidableEq, Repr

/-- A listener: its name, and what it does when it is told of a chunk. -/
structure Listener where
  name : String
  acts : List Act
  deriving DecidableEq, Repr

/-- A listener that does nothing further. -/
def Listener.quiet (name : String) : Listener := ⟨name, []⟩

/-- What listeners leave behind. -/
inductive Note
  /-- A listener was told of a chunk. -/
  | heard (name chunk : String)
  /-- A listener took this text. -/
  | took (text : String)
  deriving DecidableEq, Repr

/-- The note as text. -/
def Note.text : Note → String
  | .heard name chunk => name ++ ":" ++ chunk
  | .took text => "took:" ++ text

/-- The text printed so far, and the listener in place. -/
structure Buffer where
  text : String := ""
  listener : Option Listener := none
  deriving DecidableEq, Repr, Inhabited

/-- A buffer while its listener acts: its text, and the name of the quiet listener that is in
    place, if one was installed meanwhile. -/
structure Acting where
  text : String
  installed : Option String
  deriving DecidableEq, Repr

/-- One act of a listener. -/
def Act.perform (b : Acting) : Act → Acting × List Note
  | .append text =>
    if text.isEmpty then (b, [])
    else ({ b with text := b.text ++ text }, b.installed.toList.map (Note.heard · text))
  | .take => ({ b with text := "" }, [.took b.text])
  | .clear => ({ b with text := "" }, [])
  | .install name => ({ b with installed := some name }, [])

/-- The acts of a listener, in order. -/
def performAll (b : Acting) : List Act → Acting × List Note
  | [] => (b, [])
  | act :: acts =>
    let (b, notes) := act.perform b
    let (b, more) := performAll b acts
    (b, notes ++ more)

namespace Buffer

/-- A buffer that holds nothing and has no listener. -/
def empty : Buffer := {}

/-- Appends a chunk and tells the listener of it. -/
def append (b : Buffer) (chunk : String) : Buffer × List Note :=
  if chunk.isEmpty then (b, [])
  else
    let text := b.text ++ chunk
    match b.listener with
    | none => ({ b with text }, [])
    | some l =>
      let (after, notes) := performAll ⟨text, none⟩ l.acts
      (⟨after.text, some ((after.installed.map Listener.quiet).getD l)⟩,
        .heard l.name chunk :: notes)

/-- Takes everything printed so far. -/
def take (b : Buffer) : String × Buffer := (b.text, { b with text := "" })

/-- Drops everything printed so far. -/
def clear (b : Buffer) : Buffer := { b with text := "" }

/-- Puts a listener in place. -/
def listen (b : Buffer) (l : Listener) : Buffer := { b with listener := some l }

end Buffer

/-! ## Handles -/

/-- Buffers and the handles on them: every handle stands for one of the buffers. -/
structure Buffers where
  buffers : List Buffer := []
  handles : List Nat := []
  deriving Repr, Inhabited

namespace Buffers

/-- A handle on a new buffer; it is the last one. -/
def create (s : Buffers) : Buffers :=
  ⟨s.buffers ++ [.empty], s.handles ++ [s.buffers.length]⟩

/-- A handle on the buffer of the handle `h`; it is the last one. -/
def clone (s : Buffers) (h : Nat) : Buffers :=
  match s.handles[h]? with
  | some i => { s with handles := s.handles ++ [i] }
  | none => s

/-- The buffer of a handle. -/
def get? (s : Buffers) (h : Nat) : Option Buffer := s.handles[h]? >>= (s.buffers[·]?)

/-- Changes the buffer of a handle. -/
def set (s : Buffers) (h : Nat) (b : Buffer) : Buffers :=
  match s.handles[h]? with
  | some i => { s with buffers := s.buffers.set i b }
  | none => s

end Buffers

end LedBoard.Output
