import Custody.Proofs.Ownership.Spending

/-! Many wrappers over one world: any number of wrappers of buffers and cursors and of bare tokens,
which any threads make, use, hand on and end, in any order.
-/

namespace Custody

-----------------------------------------------------------------------------------------
-- Wrappers
-----------------------------------------------------------------------------------------

/-- Something that holds an ownership token. A wrapper of a buffer is a bare token. -/
inductive Wrapper
  | buffer (b : Buffer)
  | cursor (k : ElementKind) (c : Cursor k)
  | token (h : Handle Native.Cursor)

namespace Wrapper

/-- Whether the token answers for a free. -/
def own : Wrapper → Bool
  | buffer b => b.own
  | cursor _ c => c.handle.own
  | token h => h.own

/-- The object that the token refers to. -/
def target : Wrapper → Option NativeHandle
  | buffer b => b.raw.map .buffer
  | cursor _ c => c.handle.raw.map .cursor
  | token h => h.raw.map .cursor

/-- The object that the token would have to free. -/
def owed : Wrapper → Option NativeHandle
  | buffer b => b.owed
  | cursor _ c => c.handle.owed
  | token h => h.owed

/-- The wrapper with another flag. -/
def setOwn (own : Bool) : Wrapper → Wrapper
  | buffer b => buffer { b with own }
  | cursor k c => cursor k { c with handle := { c.handle with own } }
  | token h => token { h with own }

/-- The wrapper after it gave up its object without a free. -/
def release : Wrapper → Wrapper
  | buffer b => buffer b.release.2
  | cursor k c => cursor k { c with handle := c.handle.release.2 }
  | token h => token h.release.2

/-- Frees the object now if it is owned. -/
def dispose (w : Wrapper) (s : State) : Wrapper × State :=
  match w with
  | buffer b => (buffer (b.dispose s).1, (b.dispose s).2)
  | cursor k c => (cursor k { c with handle := (c.handle.dispose s).1 }, (c.handle.dispose s).2)
  | token h => (token (h.dispose s).1, (h.dispose s).2)

def drop (w : Wrapper) (s : State) : State :=
  match w with
  | buffer b => b.drop s
  | cursor _ c => c.handle.drop s
  | token h => h.drop s

end Wrapper

/-- A use of a buffer that keeps its wrapper. -/
inductive BufferUse
  | reset
  | appendLen (bytes : List UInt8) (n : Nat)
  | appendByte (byte : UInt8)
  | appendSlice (slice : Slice)
  | appendBuffer (source : Buffer)
  | insertLen (bytes : List UInt8) (n pos : Nat)
  | insertByte (byte : UInt8) (pos : Nat)
  | insertSlice (slice : Slice) (pos : Nat)
  | remove (start stop : Nat)
  | toBytes
  | length
  | view

def BufferUse.run (u : BufferUse) (b : Buffer) (s : State) : State :=
  match u with
  | reset => b.reset s
  | appendLen bytes n => (b.appendLen bytes n s).2
  | appendByte byte => (b.appendByte byte s).2
  | appendSlice slice => (b.appendSlice slice s).2
  | appendBuffer source => (b.appendBuffer source s).2
  | insertLen bytes n pos => (b.insertLen bytes n pos s).2
  | insertByte byte pos => (b.insertByte byte pos s).2
  | insertSlice slice pos => (b.insertSlice slice pos s).2
  | remove start stop => (b.remove start stop s).2
  | toBytes => (b.toBytes? s).2
  | length => (b.length s).2
  | view => (b.slice s).2

/-- The uses of a buffer that keep its wrapper are edits and questions. -/
theorem BufferUse.tame_run (u : BufferUse) (b : Buffer) (s : State)
    : s.Tame (u.run b s) := by
  cases u with
  | reset => exact b.tame_reset s
  | appendLen bytes n => exact (Edit.appendLen bytes n).tame_run b s
  | appendByte byte => exact (Edit.appendByte byte).tame_run b s
  | appendSlice slice => exact (Edit.appendSlice slice).tame_run b s
  | appendBuffer source => exact (Edit.appendBuffer source).tame_run b s
  | insertLen bytes n pos => exact (Edit.insertLen bytes n pos).tame_run b s
  | insertByte byte pos => exact (Edit.insertByte byte pos).tame_run b s
  | insertSlice slice pos => exact (Edit.insertSlice slice pos).tame_run b s
  | remove start stop => exact (Edit.remove start stop).tame_run b s
  | toBytes => exact Question.toBytes.tame_ask b s
  | length => exact Question.length.tame_ask b s
  | view => exact Question.slice.tame_ask b s

/-- A use of a cursor that keeps its wrapper. -/
inductive CursorUse
  | take (n : Nat)
  | lock
  | unlock
  | container

def CursorUse.run {k : ElementKind} (u : CursorUse) (c : Cursor k) (s : State)
    : Cursor k × State :=
  match u with
  | take n => (c.take n s).2
  | lock => (c, (c.lock s).2)
  | unlock => (c, (c.unlock s).2)
  | container => (c, (c.container s).2)

theorem CursorUse.tame_run {k : ElementKind} (u : CursorUse) (c : Cursor k) (s : State)
    : s.Tame (u.run c s).2 := by
  cases u with
  | take n => exact c.tame_take n s
  | lock => exact c.tame_lock s
  | unlock => exact c.tame_unlock s
  | container => exact c.tame_container s

/-- What can be done with a wrapper. -/
inductive Wrapper.Act
  | setOwn (own : Bool)
  | release
  | dispose
  | drop
  | collect
  | useBuffer (u : BufferUse)
  | useCursor (u : CursorUse)

/-- Acts on a wrapper, and answers what is left of it. An act for another kind of wrapper does
nothing.
-/
def Wrapper.Act.run (a : Act) (w : Wrapper) (s : State) : Option Wrapper × State :=
  match a with
  | setOwn own => (some (w.setOwn own), s)
  | release => (some w.release, s)
  | dispose => (some (w.dispose s).1, (w.dispose s).2)
  | drop => (none, w.drop s)
  | collect =>
      match w with
      | .cursor _ c => (none, (c.collect s).2)
      | w => (some w, s)
  | useBuffer u =>
      match w with
      | .buffer b => (some w, u.run b s)
      | w => (some w, s)
  | useCursor u =>
      match w with
      | .cursor k c => (some (.cursor k (u.run c s).1), (u.run c s).2)
      | w => (some w, s)

-----------------------------------------------------------------------------------------
-- Operations
-----------------------------------------------------------------------------------------

inductive Operation
  /-- The native side makes a buffer that no wrapper knows. -/
  | nativeBuffer
  /-- The native side makes a cursor that no wrapper knows. -/
  | nativeCursor (elements : List Native.Element)
  | newBuffer
  | bufferOfBytes (bytes : List UInt8) (n : Nat)
  | copyBuffer (source : Buffer)
  | copyView (v : BufferView)
  | adoptBuffer (raw : Option (Ref Native.Buffer)) (own : Bool)
  | adoptCursor (k : ElementKind) (raw : Option (Ref Native.Cursor)) (own : Bool)
  | adoptToken (raw : Option (Ref Native.Cursor)) (own : Bool)
  /-- Acts on the wrapper at a place in the order of making; wrappers that ended have none. -/
  | act (place : Nat) (a : Wrapper.Act)
  | flush
  | flushTask
  | setMainLoop (on : Bool)
  | failNextAlloc
  | failNextWrite
  | failNextWriteTo (r : Ref Native.Buffer)

/-- The wrappers with a new one, if it was made. -/
def keepBuffer (ws : List Wrapper) (made : Attempt BufferError Buffer) : List Wrapper × State :=
  match made with
  | (.ok b, s) => (ws ++ [.buffer b], s)
  | (.error _, s) => (ws, s)

/-- The wrappers with what is left of the one at a place. -/
def keepLeft (ws : List Wrapper) (place : Nat) (left : Option Wrapper × State)
    : List Wrapper × State :=
  match left with
  | (some w, s) => (ws.set place w, s)
  | (none, s) => (ws.eraseIdx place, s)

/-- Runs an operation over the wrappers there are. -/
def Operation.run (op : Operation) (ws : List Wrapper) (s : State) : List Wrapper × State :=
  match op with
  | nativeBuffer => (ws, s.newBuffer.2)
  | nativeCursor elements => (ws, (s.newCursor { rest := elements }).2)
  | newBuffer => keepBuffer ws (Buffer.new s)
  | bufferOfBytes bytes n => keepBuffer ws (Buffer.ofBytesLen bytes n s)
  | copyBuffer source => keepBuffer ws (source.copy s)
  | copyView v => keepBuffer ws (v.toBuffer s)
  | adoptBuffer raw own => (ws ++ [.buffer { raw, own }], s)
  | adoptCursor k raw own => (ws ++ [.cursor k (Cursor.ofRaw raw own)], s)
  | adoptToken raw own => (ws ++ [.token { raw, own }], s)
  | act place a =>
      match ws[place]? with
      | some w => keepLeft ws place (a.run w s)
      | none => (ws, s)
  | flush => (ws, s.flush.2)
  | flushTask => (ws, s.flushTask.2)
  | setMainLoop on => (ws, { s with thread := { s.thread with onMainLoop := on } })
  | failNextAlloc => (ws, s.failNextAlloc)
  | failNextWrite => (ws, s.failNextWrite)
  | failNextWriteTo r => (ws, s.failNextWriteTo r)

-----------------------------------------------------------------------------------------
-- Runs
-----------------------------------------------------------------------------------------

/-- The records of all threads, the world they share, and the wrappers there are. -/
structure System where
  threads : Nat → Thread
  world : World
  wrappers : List Wrapper := []

namespace System

/-- Before the first operation there are no objects and no wrappers. -/
def start (settings : Settings) (threads : Nat → Thread) : System :=
  { threads, world := (State.blank settings).world }

/-- The state in which a thread runs. -/
def state (σ : System) (thread : Nat) : State :=
  { thread := σ.threads thread, world := σ.world }

/-- The system after a thread ran. -/
def after (σ : System) (thread : Nat) (ran : List Wrapper × State) : System :=
  { threads := fun t => if t = thread then ran.2.thread else σ.threads t
    world := ran.2.world
    wrappers := ran.1 }

/-- One operation, by the thread that it stands with. -/
def step (σ : System) (e : Nat × Operation) : System :=
  σ.after e.1 (e.2.run σ.wrappers (σ.state e.1))

def run (σ : System) (es : List (Nat × Operation)) : System :=
  es.foldl step σ

/-- The number of wrappers that own an object. -/
def owners (σ : System) (h : NativeHandle) : Nat :=
  σ.wrappers.countP fun w => w.owed = some h

/-- The frees of an object, those that ran, those that wait and those that wrappers own. -/
def claims (σ : System) (h : NativeHandle) : Nat :=
  σ.world.freed h + σ.owners h + σ.world.queued h

/-- An object that is there, and nobody frees, will free or freed. -/
def Unclaimed (σ : System) (h : NativeHandle) : Prop :=
  σ.world.Has h ∧ σ.claims h = 0

/-- The rule for the callers: whoever makes a wrapper own an object that it did not own, by making
the wrapper or by setting its flag, takes an unclaimed one.
-/
def Allows (σ : System) : Operation → Prop
  | .adoptBuffer raw own => own = true → ∀ r, raw = some r → σ.Unclaimed (.buffer r)
  | .adoptCursor _ raw own => own = true → ∀ r, raw = some r → σ.Unclaimed (.cursor r)
  | .adoptToken raw own => own = true → ∀ r, raw = some r → σ.Unclaimed (.cursor r)
  | .act place (.setOwn own) =>
      own = true
      → ∀ w h,
          σ.wrappers[place]? = some w
          → w.target = some h
          → w.own = false
          → σ.Unclaimed h
  | _ => True

/-- Every operation keeps the rule in the state that it finds. -/
def Lawful (σ : System) : List (Nat × Operation) → Prop
  | [] => True
  | e :: es => σ.Allows e.2 ∧ (σ.step e).Lawful es

/-- The operation ends a wrapper that owns the object: it disposes of it, drops it or collects
from it.
-/
def Ends (σ : System) (op : Operation) (h : NativeHandle) : Prop :=
  ∃ place w,
    σ.wrappers[place]? = some w
    ∧ w.owed = some h
    ∧ (op = .act place .dispose
      ∨ op = .act place .drop
      ∨ op = .act place .collect ∧ ∃ (k : ElementKind) (c : Cursor k), w = .cursor k c)

/-- The operation gives up an object that its wrapper owns: by release, or by the flag. -/
def GivesUp (σ : System) (op : Operation) (h : NativeHandle) : Prop :=
  ∃ place w,
    σ.wrappers[place]? = some w
    ∧ w.owed = some h
    ∧ (op = .act place .release ∨ op = .act place (.setOwn false))

end System

end Custody
