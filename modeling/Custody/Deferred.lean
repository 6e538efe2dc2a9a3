import Custody.State

/-!
Frees that nobody asked for in words. They may only run on the main loop, so those met elsewhere
wait in a queue until the loop empties it.
-/

namespace Custody.State

/-- Runs a native free: of a buffer or a cursor, or of one reference to a message. -/
def free (s : State) : NativeHandle → State
  | .buffer r => s.setBuffer r { s.buffer r with frees := (s.buffer r).frees + 1 }
  | .cursor r => s.setCursor r { s.cursor r with frees := (s.cursor r).frees + 1 }
  | .message r => s.setMessage r { s.message r with unrefs := (s.message r).unrefs + 1 }

/-- Whether a free may run at once: on the main loop, unless the settings queue every free. -/
def freesInline (s : State) : Bool :=
  !s.world.settings.deferAll && s.thread.onMainLoop

/-- Puts a free at the end of the queue; a queue that reaches the length set is reported. -/
def enqueue (s : State) (h : NativeHandle) : State :=
  let queue := s.world.queue ++ [h]
  let s := { s with world := { s.world with queue } }
  if queue.length = s.world.settings.deferWarn then s.note (.queueGrowing queue.length) else s

/-- Frees at once where that may be, and otherwise later. -/
def schedule (s : State) (h : NativeHandle) : State :=
  if s.freesInline then s.free h else s.enqueue h

/-- Frees what a pointer points to; a null pointer needs no free. -/
def schedulePointer (s : State) (h : Option NativeHandle) : State :=
  h.elim s s.schedule

/-- Takes every waiting free out of the queue, oldest first. -/
def takeQueue (s : State) : List NativeHandle × State :=
  (s.world.queue, { s with world := { s.world with queue := [] } })

/-- Runs frees one after the other. -/
def freeAll (s : State) (batch : List NativeHandle) : State :=
  batch.foldl free s

/-- Runs every queued free, oldest first, and answers how many there were. Away from the main
loop nothing runs.
-/
def flush (s : State) : Nat × State :=
  if !s.thread.onMainLoop then (0, s.note .flushOffLoop)
  else
    let (batch, s) := s.takeQueue
    let s := s.freeAll batch
    (batch.length, if batch.isEmpty then s else s.note (.flushed batch.length))

/-- The number of frees that wait. -/
def pendingFrees (s : State) : Nat :=
  s.world.queue.length

/-- A flush in the shape of a callback of the main loop, which always asks to be called again. -/
def flushTask (s : State) : Bool × State :=
  (true, s.flush.2)

end Custody.State
