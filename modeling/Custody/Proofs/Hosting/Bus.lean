import Custody.Proofs.Hosting.Data

/-! What operations on messages, positions in their bodies and pending calls free: a reply that its
delegate disposes of, and the buffer behind a wrapper that could not be made because its contents were
refused.
-/

namespace Custody

-----------------------------------------------------------------------------------------
-- The native side of the bus
-----------------------------------------------------------------------------------------

namespace State

variable {s : State}

theorem proceeds_newMessage (s : State) {m : Native.Message} (unrefs : m.unrefs = 0)
    (fits : ZeroTerminated.fits m.signature = true)
    : Proceeds [] s (s.newMessage m).2 :=
  (spares_newMessage s unrefs).proceeds rfl rfl rfl (signaturesFit_newMessage fits)

theorem proceeds_addRef (s : State) (r : Ref Native.Message)
    : Proceeds [] s (s.addRef r) :=
  (spares_setMessage rfl : s.Spares (s.addRef r)).proceeds rfl rfl rfl (signaturesFit_setMessage id)

theorem live_ne {α : Type} {e : BusError} (s : State) (raw : Option (Ref α))
    (other : e ≠ .nullHandle)
    : (s.live raw).1 ≠ .error e := by
  cases raw with
  | none => exact fun same => other (Except.error.inj same).symm
  | some r => exact nofun

theorem proceeds_makeMessage (s : State) (method : String)
    : Proceeds [] s (s.makeMessage method).2 := by
  unfold makeMessage
  split
  · exact .of_same rfl rfl rfl rfl rfl rfl
  · exact proceeds_newMessage s rfl rfl

theorem proceeds_sendNative (s : State) (c : Ref Native.Connection) (m : Ref Native.Message)
    (t : Token) (timeout : Double)
    : Proceeds [] s (s.sendNative c m t timeout).2 := by
  unfold sendNative
  dsimp only
  split <;> exact .of_same rfl rfl rfl rfl rfl rfl

end State

open State

-----------------------------------------------------------------------------------------
-- Messages
-----------------------------------------------------------------------------------------

namespace Message

theorem proceeds_methodCall (destination path interface method : String) (s : State)
    : Proceeds [] s (methodCall destination path interface method s).2 := by
  have went := s.proceeds_makeMessage method
  unfold methodCall
  split
  · exact .refl s
  · generalize s.makeMessage method = made at went ⊢
    obtain ⟨_ | r, t⟩ := made
    · exact went.before (Tame.note t _).proceeds
    · exact went

theorem proceeds_newRef (m : Message) (s : State)
    : Proceeds [] s (newRef m s).2 :=
  (tame_live s m.raw).proceeds.andThen fun r t => t.proceeds_addRef r

/-- No buffer is made for a position. -/
theorem cursor_ne (m : Message) (s : State)
    : (m.cursor s).1 ≠ .error (.buffer .append) := by
  obtain ⟨raw, own⟩ := m
  cases raw with
  | none => nofun
  | some r =>
      dsimp only [cursor, live, Attempt.andThen_ok]
      cases (s.makeBodyCursor r).1 <;> nofun

end Message

-----------------------------------------------------------------------------------------
-- Positions in bodies
-----------------------------------------------------------------------------------------

namespace BodyCursor

theorem readArray_ne (c : BodyCursor) (s : State)
    : (c.readArray s).1 ≠ .error (.buffer .append) := by
  obtain ⟨raw⟩ := c
  cases raw with
  | none => nofun
  | some r =>
      dsimp only [readArray, live, Attempt.andThen_ok]
      split <;> nofun

/-- The bytes that are read may be refused by the buffer that they are for. -/
theorem frees_readBytes (c : BodyCursor) (s : State)
    : Frees [] ((c.readBytes s).1 = .error (.buffer .append)) s (c.readBytes s).2 := by
  refine .andThen (tame_live s c.raw).proceeds (s.live_ne c.raw nofun) fun r t => ?_
  have went := (tame_readBlock t r).proceeds
  generalize t.readBlock r = found at went ⊢
  obtain ⟨_ | ⟨count, bytes⟩, u⟩ := found
  · exact .of_not went nofun
  · dsimp only
    split
    · exact .of_not went nofun
    · have frees := Buffer.frees_ofBytes ((bytes.getD []).take count.toNat) u
      generalize Buffer.ofBytes ((bytes.getD []).take count.toNat) u = made at frees ⊢
      obtain ⟨e | b, v⟩ := made <;> exact (frees.after went).congr (by simp)

end BodyCursor

-----------------------------------------------------------------------------------------
-- Delegates
-----------------------------------------------------------------------------------------

/-- What an act of a delegate frees in so many words. -/
def Act.disposes (reply : Message) : Act → List NativeHandle
  | dispose => reply.owed.toList
  | _ => []

/-- The act reads bytes into a buffer, which refuses them. -/
def Act.Refused (seat : Seat) (s : State) : Act → Prop
  | readBytes => (seat.perform s .readBytes).1 = .error (.buffer .append)
  | _ => False

/-- An answer tells of a refusal what the attempt tells. -/
theorem Seat.frees_ask {α : Type} {e : BusError} {s : State} {a : Attempt BusError α} (seat : Seat)
    (answer : α → Answer) (frees : Frees [] (a.1 = .error e) s a.2)
    : Frees [] ((seat.ask answer a).1 = .error e) s (seat.ask answer a).2.2 := by
  refine frees.congr ?_
  obtain ⟨f | x, t⟩ := a <;> simp [ask, Except.map]

/-- One case for each act. -/
theorem Seat.frees_perform (seat : Seat) (s : State) (a : Act)
    : Frees (a.disposes seat.reply) (a.Refused seat s) s (seat.perform s a).2.2 := by
  cases a with
  | owns | own | release | signature | fault | currentType | cursorSignature | read | append
  | method | cancel =>
      exact .of_not (Tame.proceeds (seat.tame_perform s trivial)) id
  | readBytes =>
      refine frees_ask seat .bytes ?_
      refine .andThen (seat.reply.tame_cursor s).proceeds (seat.reply.cursor_ne s) fun c t => ?_
      refine .andThen (c.tame_readArray t).proceeds (c.readArray_ne t) fun inner u => ?_
      refine .andThen_proceeds (inner.frees_readBytes u) (fun b v => ?_) fun b v => nofun
      exact (proceeds_schedulePointer _ _).after (Question.toBytes.tame_ask b v).proceeds
  | newRef =>
      refine .of_not ((seat.reply.proceeds_newRef s).andThen fun m t => ?_) id
      exact proceeds_schedulePointer t m.owed
  | dispose => exact .of_not (proceeds_dispose seat.reply s) id

end Custody
