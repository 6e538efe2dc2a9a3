import Custody.Log
import Custody.Native.BodyCursor
import Custody.Native.Bus
import Custody.Native.Cursor
import Custody.Native.Planned
import Custody.Settings

/-!
What every operation works on: the record of the calling thread and the world that all threads
share. An operation is a function from a state to its answer and the next state; a run over many
threads gives each call the record of its own thread.
-/

namespace Custody

/-- A native object that can be freed: a buffer or a cursor once, a message once per reference. -/
inductive NativeHandle
  | buffer (target : Ref Native.Buffer)
  | cursor (target : Ref Native.Cursor)
  | message (target : Ref Native.Message)
deriving DecidableEq

/-- An error kind that takes its number on first use. -/
structure LazyKind where
  text : List UInt8 := []
  number : Option Int32 := none
deriving DecidableEq

instance : Inhabited LazyKind := ⟨{}⟩

/-- What the native side keeps per thread. -/
structure Thread where
  /-- Whether this is the thread of the main loop. -/
  onMainLoop : Bool := true
  /-- The error number last raised here; zero for none. -/
  lastError : Int32 := 0
  /-- Whether the next allocation of a buffer fails here. -/
  failAlloc : Bool := false
  /-- Whether the next change of any buffer fails here. -/
  failAppend : Bool := false
  /-- The buffer allocated last here. -/
  lastBuffer : Option (Ref Native.Buffer) := none
deriving DecidableEq

instance : Inhabited Thread := ⟨{}⟩

/-- What all threads share. -/
structure World where
  settings : Settings := {}
  buffers : Heap Native.Buffer := {}
  cursors : Heap Native.Cursor := {}
  messages : Heap Native.Message := {}
  bodyCursors : Heap Native.BodyCursor := {}
  calls : Heap Native.PendingCall := {}
  connections : Heap Native.Connection := {}
  /-- The texts of the registered errors; the first has number 1. -/
  errors : List (List UInt8) := []
  /-- The error kinds; the first two are those of released wrappers. -/
  kinds : Heap LazyKind := {}
  /-- The frees that wait for the main loop, oldest first. -/
  queue : List NativeHandle := []
  planned : Native.PlannedAnswers := {}
  /-- Whether a reader of the log is installed. -/
  subscribed : Bool := false
  /-- The events reported so far, oldest first. -/
  log : List Event := []
deriving DecidableEq

/-- The calling thread and the world. -/
structure State where
  thread : Thread := {}
  world : World := {}
deriving DecidableEq

instance : Inhabited State := ⟨{}⟩

namespace State

/-- Reports an event. -/
def note (s : State) (e : Event) : State :=
  { s with world := { s.world with log := s.world.log ++ [e] } }

/-! The native objects behind references: each kind is read, replaced and stored anew. -/

def buffer (s : State) (r : Ref Native.Buffer) : Native.Buffer :=
  s.world.buffers.get r

def setBuffer (s : State) (r : Ref Native.Buffer) (b : Native.Buffer) : State :=
  { s with world := { s.world with buffers := s.world.buffers.put r b } }

def cursor (s : State) (r : Ref Native.Cursor) : Native.Cursor :=
  s.world.cursors.get r

def setCursor (s : State) (r : Ref Native.Cursor) (c : Native.Cursor) : State :=
  { s with world := { s.world with cursors := s.world.cursors.put r c } }

def newCursor (s : State) (c : Native.Cursor) : Ref Native.Cursor × State :=
  ((s.world.cursors.alloc c).1,
    { s with world := { s.world with cursors := (s.world.cursors.alloc c).2 } })

def message (s : State) (r : Ref Native.Message) : Native.Message :=
  s.world.messages.get r

def setMessage (s : State) (r : Ref Native.Message) (m : Native.Message) : State :=
  { s with world := { s.world with messages := s.world.messages.put r m } }

def newMessage (s : State) (m : Native.Message) : Ref Native.Message × State :=
  ((s.world.messages.alloc m).1,
    { s with world := { s.world with messages := (s.world.messages.alloc m).2 } })

def bodyCursor (s : State) (r : Ref Native.BodyCursor) : Native.BodyCursor :=
  s.world.bodyCursors.get r

def setBodyCursor (s : State) (r : Ref Native.BodyCursor) (c : Native.BodyCursor) : State :=
  { s with world := { s.world with bodyCursors := s.world.bodyCursors.put r c } }

def newBodyCursor (s : State) (c : Native.BodyCursor) : Ref Native.BodyCursor × State :=
  ((s.world.bodyCursors.alloc c).1,
    { s with world := { s.world with bodyCursors := (s.world.bodyCursors.alloc c).2 } })

def call (s : State) (r : Ref Native.PendingCall) : Native.PendingCall :=
  s.world.calls.get r

def setCall (s : State) (r : Ref Native.PendingCall) (c : Native.PendingCall) : State :=
  { s with world := { s.world with calls := s.world.calls.put r c } }

def newCall (s : State) (c : Native.PendingCall) : Ref Native.PendingCall × State :=
  ((s.world.calls.alloc c).1,
    { s with world := { s.world with calls := (s.world.calls.alloc c).2 } })

def connection (s : State) (r : Ref Native.Connection) : Native.Connection :=
  s.world.connections.get r

def setConnection (s : State) (r : Ref Native.Connection) (c : Native.Connection) : State :=
  { s with world := { s.world with connections := s.world.connections.put r c } }

def newConnection (s : State) (c : Native.Connection) : Ref Native.Connection × State :=
  ((s.world.connections.alloc c).1,
    { s with world := { s.world with connections := (s.world.connections.alloc c).2 } })

/-- Plans answers of the native side, or withdraws them. -/
def plan (s : State) (change : Native.PlannedAnswers → Native.PlannedAnswers) : State :=
  { s with world := { s.world with planned := change s.world.planned } }

/-- Answers on a thread of its own, which is given; its record is thrown away at the end. -/
def onThread {α : Type} (t : Thread) (act : State → α × State) (s : State) : α × State :=
  ((act { s with thread := t }).1, { (act { s with thread := t }).2 with thread := s.thread })

/-- Installs the reader of the log. Only the first attempt succeeds. -/
def subscribe (s : State) : Bool × State :=
  (!s.world.subscribed, { s with world := { s.world with subscribed := true } })

end State

/-- An answer that may be an error, and the state in either case. -/
abbrev Attempt (ε α : Type) :=
  Except ε α × State

namespace Attempt

/-- Goes on from a success; an error ends the attempt in the state it was met in. -/
def andThen {ε α β : Type} (a : Attempt ε α) (next : α → State → Attempt ε β) : Attempt ε β :=
  match a with
  | (.ok x, s) => next x s
  | (.error e, s) => (.error e, s)

@[simp]
theorem andThen_ok {ε α β : Type} (x : α) (s : State) (next : α → State → Attempt ε β)
    : andThen (.ok x, s) next = next x s :=
  rfl

@[simp]
theorem andThen_error {ε α β : Type} (e : ε) (s : State) (next : α → State → Attempt ε β)
    : andThen (.error e, s) next = (.error e, s) :=
  rfl

end Attempt

end Custody
