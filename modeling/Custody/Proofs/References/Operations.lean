import Custody.Proofs.Delivery.Switchboard
import Custody.Proofs.References.Effects

/-! Which references to messages each operation takes and spends. All but those on the ownership of
a message take and spend none, and a delegate's act on its reply does not lose count.
-/

namespace Custody

namespace Buffer

open State

/-- The free of a buffer gives back no reference to a message. -/
theorem message?_owed (b : Buffer)
    : b.owed.bind NativeHandle.message? = none := by
  unfold Handle.owed
  split
  · cases b.raw <;> rfl
  · rfl

theorem effect_drop (b : Buffer) (s : State)
    : Effect [] [] s (b.drop s) := by
  have dropped := (freeing_schedulePointer s b.owed).keeps.effect (Handle.pays_drop b s)
  rwa [message?_owed] at dropped

theorem effect_dispose (b : Buffer) (s : State)
    : Effect [] [] s (b.dispose s).2 := by
  have disposed := (freeing_dispose b s).keeps.effect (Handle.pays_dispose b s)
  rwa [message?_owed] at disposed

theorem effect_ofBytes (bytes : List UInt8) (s : State)
    : Effect [] [] s (ofBytes bytes s).2 := by
  have allocated := tame_new s
  unfold ofBytes ofBytesLen
  generalize new s = made at allocated ⊢
  obtain ⟨e | b, t⟩ := made
  · exact allocated.effect
  · have filled := (allocated.trans ((Edit.append bytes).tame_run b t)).effect
    dsimp only [Attempt.andThen, settle]
    split
    · exact filled
    · exact filled.before (effect_dispose b _)

end Buffer

/-- All is tame but the making of the buffer. -/
theorem BodyCursor.effect_readBytes (c : BodyCursor) (s : State)
    : State.Effect [] [] s (c.readBytes s).2 := by
  refine (State.tame_live s c.raw).effect.andThen fun r t => ?_
  have found := (State.tame_readBlock t r).effect
  generalize t.readBlock r = block at found ⊢
  obtain ⟨_ | ⟨count, bytes⟩, u⟩ := block
  · exact found
  · dsimp only
    split
    · exact found
    · have made := (Buffer.effect_ofBytes ((bytes.getD []).take count.toNat) u).after found
      generalize Buffer.ofBytes ((bytes.getD []).take count.toNat) u = b at made ⊢
      obtain ⟨e | b, v⟩ := b <;> exact made

namespace Message

open State

/-- The reference that a wrapper answers for, if it was made. -/
def owesMade : Except BusError Message → List (Ref Native.Message)
  | .ok m => m.owes
  | .error _ => []

/-- A new reference is taken for its wrapper. -/
theorem effect_newRef (m : Message) (s : State)
    : Effect (owesMade (newRef m s).1) [] s (newRef m s).2 := by
  unfold newRef
  cases m.raw with
  | none => exact (tame_raiseNullHandle s .bus).effect
  | some r => exact effect_addRef s r

theorem effect_methodCall (destination path interface method : String) (s : State)
    : Effect (owesMade (methodCall destination path interface method s).1) [] s
        (methodCall destination path interface method s).2 := by
  unfold methodCall
  split
  · exact .refl s
  · cases planned : s.world.planned.noMessage with
    | true =>
        rw [makeMessage, if_pos planned]
        exact (Tame.note _ _).effect.after (.of_same rfl rfl rfl rfl id)
    | false =>
        rw [makeMessage, if_neg (by simp [planned])]
        exact effect_newMessage s rfl rfl

theorem message?_owed (m : Message)
    : (m.owed.bind NativeHandle.message?).toList = m.owes := by
  unfold Handle.owed owes
  split
  · cases m.raw <;> rfl
  · rfl

/-- A wrapper that ends spends what it answers for. -/
theorem effect_drop (m : Message) (s : State)
    : Effect [] m.owes s (m.drop s) := by
  have dropped := (freeing_schedulePointer s m.owed).keeps.effect (Handle.pays_drop m s)
  rwa [message?_owed] at dropped

theorem effect_dispose (m : Message) (s : State)
    : Effect [] m.owes s (m.dispose s).2 := by
  have disposed := (freeing_dispose m s).keeps.effect (Handle.pays_dispose m s)
  rwa [message?_owed] at disposed

end Message

namespace Seat

open State

/-- What an act takes or takes over, it spends, hands out or leaves with the reply. -/
theorem perform_effect (seat : Seat) (s : State) (a : Act)
    : ∃ taken paid,
        Effect taken paid s (seat.perform s a).2.2
        ∧ (taken ++ seat.reply.owes ++ a.takesOver seat.reply).Perm
            (paid ++ (seat.perform s a).2.1.reply.owes ++ a.handsOut seat.reply) := by
  cases a with
  | owns | signature | fault | currentType | cursorSignature | read | append | method =>
      exact ⟨[], [], State.Tame.effect (seat.tame_perform s trivial), .refl _⟩
  | cancel =>
      refine ⟨[], [], State.Tame.effect (seat.tame_perform s trivial), ?_⟩
      dsimp only [perform]
      split <;> exact .refl _
  | readBytes =>
      refine ⟨[], [], (seat.reply.tame_cursor s).effect.andThen fun c t => ?_, .refl _⟩
      refine (c.tame_readArray t).effect.andThen fun inner u => ?_
      refine (inner.effect_readBytes u).andThen fun b v => ?_
      exact (Buffer.effect_drop b _).after (Question.toBytes.tame_ask b v).effect
  | newRef =>
      obtain ⟨⟨raw, own⟩, call, answers⟩ := seat
      cases raw with
      | none => exact ⟨[], [], (tame_raiseNullHandle s .bus).effect, .refl _⟩
      | some r =>
          have dropped := Message.effect_drop { raw := some r, own := true } (s.addRef r)
          exact ⟨[r], [r], (effect_addRef s r).trans dropped, .refl _⟩
  | own =>
      obtain ⟨⟨raw, own⟩, call, answers⟩ := seat
      refine ⟨[], [], .refl s, ?_⟩
      cases own with
      | false => exact .of_eq (List.append_nil _).symm
      | true => exact .refl _
  | release =>
      obtain ⟨⟨raw, own⟩, call, answers⟩ := seat
      refine ⟨[], [], .refl s, ?_⟩
      cases own <;> exact .of_eq (List.append_nil _)
  | dispose =>
      obtain ⟨⟨raw, own⟩, call, answers⟩ := seat
      refine ⟨[], Message.owes ⟨raw, own⟩, Message.effect_dispose ⟨raw, own⟩ s, ?_⟩
      cases own <;> exact .of_eq (by simp [Message.owes, Act.takesOver, Act.handsOut, perform,
        Handle.dispose, Handle.release])

end Seat

/-- The end of a delegate spends what its reply answers for. -/
theorem Exchange.effect_settle_leave (p : Exchange) (seat : Seat) (how : Ended)
    : State.Effect [] seat.reply.owes p.state ((p.leave seat).settle how).2.state := by
  have dropped := Message.effect_drop seat.reply p.state
  cases how with
  | ok => exact dropped
  | failed => exact dropped.before (State.Tame.note _ _).effect
  | panicked => exact dropped.before (State.Tame.note _ _).effect

end Custody
