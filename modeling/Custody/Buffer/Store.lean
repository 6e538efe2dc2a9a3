import Custody.ErrorTable

/-!
What the native side does to its buffers. Every write goes through one check, which uses up the
failures that wait for this buffer and for this thread before it looks at the range.
-/

namespace Custody.State

/-- Allocates an empty buffer, and remembers it as the last one of the thread; a failure that
waits is used up instead.
-/
def newBuffer (s : State) : Option (Ref Native.Buffer) × State :=
  if s.thread.failAlloc then
    (none, { s with thread := { s.thread with failAlloc := false } })
  else
    let (r, buffers) := s.world.buffers.alloc {}
    (some r,
      { s with
        thread := { s.thread with lastBuffer := some r }
        world := { s.world with buffers } })

/-- Whether a failure waits for the next write to a buffer. -/
def writeFails (s : State) (r : Ref Native.Buffer) : Bool :=
  s.thread.failAppend || (s.buffer r).failNext

/-- Uses up the failures that wait for a write to a buffer. -/
def takeWriteFailure (s : State) (r : Ref Native.Buffer) : State :=
  { s with thread := { s.thread with failAppend := false } }.setBuffer r
    { s.buffer r with failNext := false }

/-- Replaces the contents of a buffer. -/
def setContents (s : State) (r : Ref Native.Buffer) (bytes : List UInt8) : State :=
  s.setBuffer r { s.buffer r with bytes }

/-- Puts bytes into a buffer before position `pos`, at most its end. -/
def writeAt (s : State) (r : Ref Native.Buffer) (bytes : List UInt8) (pos : Nat)
    : Bool × State :=
  let contents := (s.buffer r).bytes
  if s.writeFails r || contents.length < pos then (false, s.takeWriteFailure r)
  else
    (true, (s.takeWriteFailure r).setContents r (contents.take pos ++ bytes ++ contents.drop pos))

/-- Puts bytes at the end of a buffer. -/
def writeEnd (s : State) (r : Ref Native.Buffer) (bytes : List UInt8) : Bool × State :=
  s.writeAt r bytes (s.buffer r).bytes.length

/-- Takes out the bytes from `start` up to, and not with, `stop`. -/
def cut (s : State) (r : Ref Native.Buffer) (start stop : Nat) : Bool × State :=
  let contents := (s.buffer r).bytes
  if s.writeFails r || stop < start || contents.length < stop then (false, s.takeWriteFailure r)
  else (true, (s.takeWriteFailure r).setContents r (contents.take start ++ contents.drop stop))

/-- Makes the next allocation of the thread fail. -/
def failNextAlloc (s : State) : State :=
  { s with thread := { s.thread with failAlloc := true } }

/-- Makes the next write of the thread fail. -/
def failNextWrite (s : State) : State :=
  { s with thread := { s.thread with failAppend := true } }

/-- Makes the next write to a buffer fail. -/
def failNextWriteTo (s : State) (r : Ref Native.Buffer) : State :=
  s.setBuffer r { s.buffer r with failNext := true }

end Custody.State
