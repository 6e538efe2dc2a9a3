import Custody.BufferView
import Custody.Proofs.Buffers.Frame

/-! Making buffers: where no failure waits, a buffer is made, it is owned, and it holds what was
given.
-/

namespace Custody

variable {s : State}

namespace State

theorem newBuffer_calm (calm : s.thread.Calm)
    : ∃ r t, s.newBuffer = (some r, t) ∧ t.buffer r = {} ∧ t.thread.Calm := by
  unfold newBuffer
  rw [calm.1]
  refine ⟨_, _, rfl, ?_, calm⟩
  exact s.world.buffers.get_alloc_self {}

/-- Bytes written to a blank buffer are its contents, unless the next change fails on the thread. -/
theorem writeAt_blank_eq {r : Ref Native.Buffer} (blank : s.buffer r = {}) (bytes : List UInt8)
    : s.writeAt r bytes 0
      = if s.thread.failAppend then (false, s.takeWriteFailure r)
        else (true, (s.takeWriteFailure r).setContents r bytes) := by
  simp [writeAt, writeFails, blank]

theorem writeAt_blank {r : Ref Native.Buffer} (calm : s.thread.Calm) (blank : s.buffer r = {})
    (bytes : List UInt8)
    : s.writeAt r bytes 0 = (true, (s.takeWriteFailure r).setContents r bytes) := by
  rw [writeAt_blank_eq blank, calm.2]
  rfl

@[simp]
theorem bytes_setContents (s : State) (r : Ref Native.Buffer) (bytes : List UInt8)
    : ((s.setContents r bytes).buffer r).bytes = bytes := by
  simp [setContents, setBuffer, buffer]

end State

/-- A buffer made of bytes holds them. -/
theorem Buffer.ofBytes_calm (calm : s.thread.Calm) (bytes : List UInt8)
    : ∃ b t, ofBytes bytes s = (.ok b, t) ∧ b.own = true ∧ (b.toBytes? t).1 = some bytes := by
  obtain ⟨r, u, made, blank, calmNow⟩ := State.newBuffer_calm calm
  have written := State.writeAt_blank calmNow blank bytes
  refine ⟨{ raw := some r, own := true }, (u.takeWriteFailure r).setContents r bytes, ?_, rfl, ?_⟩
  · simp only [ofBytes, ofBytesLen, new, made, Attempt.andThen_ok, appendLen, Handle.use,
      Nat.lt_irrefl, if_false, List.take_length, State.writeEnd, blank, List.length_nil, written,
      settle, if_true]
  · simp [toBytes?, Handle.use]

end Custody
