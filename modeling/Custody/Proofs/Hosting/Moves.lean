import Custody.Proofs.Delivery.Uninterrupted
import Custody.Proofs.Hosting.Bus

/-! What the moves of threads on the switchboard free: a reply or a message that is disposed of, and the
buffer behind a wrapper that could not be made because its contents were refused.
-/

namespace Custody

open State

/-- What the next step of a delegate's text frees in so many words. -/
def Delegate.disposes (seat : Seat) : Delegate → List NativeHandle
  | .act a _ => a.disposes seat.reply
  | _ => []

/-- The next step of a delegate's text reads bytes into a buffer, which refuses them. -/
def Delegate.Refused (seat : Seat) (s : State) : Delegate → Prop
  | .act a _ => a.Refused seat s
  | _ => False

/-- What the next step of a call frees in so many words. -/
def Frame.disposes : Frame → List NativeHandle
  | running _ _ text seat => text.disposes seat
  | _ => []

/-- In the next step of a call bytes are read into a buffer, which refuses them. -/
def Frame.Refused (s : State) : Frame → Prop
  | running _ _ text seat => text.Refused seat s
  | _ => False

namespace Switchboard

variable (σ : Switchboard) (i : Nat)

-----------------------------------------------------------------------------------------
-- Calls and the record leave the state alone
-----------------------------------------------------------------------------------------

@[simp]
theorem state_putState (s : State)
    : (σ.putState i s).state i = s := by
  simp [state, putState]

@[simp]
theorem state_record (deeds : List Deed)
    : (σ.record deeds).state i = σ.state i :=
  rfl

@[simp]
theorem state_replace (f : Frame)
    : (σ.replace i f).state i = σ.state i :=
  rfl

@[simp]
theorem state_answer (k : Asker) (a : Except BusError Answer)
    : (σ.answer i k a).state i = σ.state i :=
  congrArg Exchange.state (σ.exchange_answer i k a)

@[simp]
theorem state_register (k : Asker) (d : Delegate) (post : Option Posting)
    : (σ.register i k d post).state i = σ.state i :=
  rfl

-----------------------------------------------------------------------------------------
-- Calls
-----------------------------------------------------------------------------------------

theorem proceeds_dispatch (k : Asker) (t : Token) (m : Option (Ref Native.Message))
    (c : Option (Ref Native.PendingCall))
    : Proceeds [] (σ.state i) ((σ.dispatch i k t m c).state i) := by
  unfold dispatch
  split
  · rw [state_answer, state_putState]
    exact proceeds_note _ _
  · split
    · exact .refl _
    · rw [state_answer, state_putState]
      exact proceeds_note _ _

/-- A message that is not sent ends as one that is dropped. -/
theorem proceeds_send (k : Asker) (c : Connection) (m : Message) (timeout : Double) (d : Delegate)
    : Proceeds [] (σ.state i) ((σ.send i k c m timeout d).state i) := by
  have first := (tame_live (σ.state i) c.raw).proceeds
  have dropped (s : State) : Proceeds [] s (m.drop s) := proceeds_schedulePointer s m.owed
  unfold send
  generalize (σ.state i).live c.raw = met at first ⊢
  obtain ⟨e | line, s⟩ := met
  · dsimp only
    rw [state_answer, state_putState]
    exact first.before (dropped s)
  · dsimp only
    have second := (tame_live s m.raw).proceeds.after first
    generalize s.live m.raw = met at second ⊢
    obtain ⟨e | r, t⟩ := met
    · dsimp only
      rw [state_answer, state_putState]
      exact second.before (dropped t)
    · dsimp only
      rw [state_register, state_record, state_putState]
      split
      · exact second
      · exact second.before (proceeds_addRef t r)

/-- A delegate takes the next step of its text. -/
theorem frees_follow (k : Asker) (t : Token) (seat : Seat) (text : Delegate)
    : Frees (text.disposes seat) (text.Refused seat (σ.state i)) (σ.state i)
        ((σ.follow i k t seat text).state i) := by
  cases text with
  | finish | table | register => exact .of_not (.refl _) id
  | act act next =>
      have frees := seat.frees_perform (σ.state i) act
      dsimp only [follow]
      generalize seat.perform (σ.state i) act = p at frees ⊢
      obtain ⟨e | a, after, s⟩ := p
      all_goals
        dsimp only
        rw [state_replace, state_record, state_putState]
        exact frees
  | dispatch u next | callback u next =>
      have went := proceeds_dispatch (σ.replace i (.running k t next seat)) i
      exact .of_not (went _ u _ _) id
  | forward c timeout child next =>
      refine .of_not ?_ id
      dsimp only [follow]
      have taken := Message.proceeds_newRef seat.reply (σ.state i)
      generalize Message.newRef seat.reply (σ.state i) = made at taken ⊢
      obtain ⟨e | m, s⟩ := made
      · dsimp only
        rw [state_replace, state_putState]
        exact taken
      · have sent := proceeds_send ((σ.putState i s).replace i (.running k t next seat)) i
          { inText := true } c m timeout child
        rw [state_replace, state_putState] at sent
        exact sent.after taken

-----------------------------------------------------------------------------------------
-- Moves
-----------------------------------------------------------------------------------------

/-- What a move frees in so many words. -/
def disposes : Move → List NativeHandle
  | .act place _ a => (σ.wrappers[place]?).elim [] a.disposes
  | .advance => (σ.top i).elim [] Frame.disposes
  | _ => []

/-- In the move bytes are read into a buffer, which refuses them. -/
def Refused : Move → Prop
  | .act place call a =>
      (σ.wrappers[place]?).elim False fun w => a.Refused { reply := w, call } (σ.state i)
  | .advance => (σ.top i).elim False fun f => f.Refused (σ.state i)
  | _ => False

/-- The innermost call of a thread takes its next step; one case for each kind of call. -/
theorem frees_advance
    : Frees (σ.disposes i .advance) (σ.Refused i .advance) (σ.state i) ((σ.advance i).state i) := by
  cases here : σ.top i with
  | none =>
      rw [advance, disposes, Refused, here]
      exact .of_not (.refl _) id
  | some f =>
      rw [advance, disposes, Refused, here]
      cases f with
      | running k t text seat => exact frees_follow σ i k t seat text
      | ended k t how seat =>
          have left : Proceeds [] (σ.state i) (((σ.exchange i).leave seat).settle how).2.state := by
            have dropped := proceeds_schedulePointer (σ.state i) seat.reply.owed
            cases how with
            | ok => exact dropped
            | failed | panicked => exact dropped.before (proceeds_note _ _)
          refine .of_not ?_ id
          dsimp only
          rw [state_answer, state_put]
          exact left
      | registering k t d post =>
          refine .of_not ?_ id
          cases post with
          | none =>
              dsimp only
              rw [state_answer]
              exact .refl _
          | some post => exact .refl _
      | posting k t d post =>
          refine .of_not ?_ id
          have sent := proceeds_sendNative (σ.state i) post.connection post.message t post.timeout
          dsimp only
          generalize (σ.state i).sendNative post.connection post.message t post.timeout = went
            at sent ⊢
          obtain ⟨_ | call, s⟩ := went
          · dsimp only
            rw [state_replace, state_putState]
            exact sent
          · dsimp only
            rw [state_answer, state_record, state_putState]
            exact sent.before (proceeds_note _ _)
      | refused k t =>
          refine .of_not ?_ id
          dsimp only
          rw [state_answer, state_putState]
          exact proceeds_note _ _

theorem proceeds_keepMade {made : Attempt BusError Message} (deeds : Message → List Deed)
    (went : Proceeds [] (σ.state i) made.2)
    : Proceeds [] (σ.state i) ((σ.keepMade i made deeds).state i) := by
  obtain ⟨e | m, s⟩ := made
  · dsimp only [keepMade]
    rw [state_putState]
    exact went
  · dsimp only [keepMade]
    rw [state_record]
    exact (state_putState σ i s).symm ▸ went

theorem frees_useWrapper (place : Nat) (w : Message) (call : PendingCall) (a : Act)
    : Frees (a.disposes w) (a.Refused { reply := w, call } (σ.state i)) (σ.state i)
        ((σ.useWrapper i place w call a).state i) := by
  have frees := Seat.frees_perform { reply := w, call } (σ.state i) a
  dsimp only [useWrapper]
  generalize Seat.perform { reply := w, call } (σ.state i) a = p at frees ⊢
  obtain ⟨answer, after, s⟩ := p
  dsimp only
  rw [state_record]
  exact (state_putState σ i s).symm ▸ frees

/-- The move puts its thread onto the main loop, or takes it away from there. -/
def Move.SetsMainLoop : Move → Prop
  | setMainLoop _ => True
  | _ => False

/-- One case for each move. -/
theorem frees_move (move : Move) (stays : ¬ move.SetsMainLoop)
    : Frees (σ.disposes i move) (σ.Refused i move) (σ.state i) ((σ.move i move).state i) := by
  have put {s : State} (went : Proceeds [] (σ.state i) s)
      : Proceeds [] (σ.state i) ((σ.putState i s).state i) := by
    rw [state_putState]
    exact went
  cases move with
  | advance => exact frees_advance σ i
  | nativeMessage body => exact .of_not (put (proceeds_newMessage _ rfl (ZeroTerminated.fits_kept _))) id
  | nativeCall | nativeConnection | failNextMessage | failNextSend =>
      exact .of_not (put (.of_same rfl rfl rfl rfl rfl rfl)) id
  | setMainLoop on => exact absurd trivial stays
  | flush | flushTask => exact .of_not (put (proceeds_flush _)) id
  | methodCall destination path interface method =>
      refine .of_not (proceeds_keepMade σ i _ ?_) id
      exact Message.proceeds_methodCall destination path interface method (σ.state i)
  | newRef place =>
      refine .of_not ?_ id
      dsimp only [Switchboard.move]
      split
      · next w _ => exact proceeds_keepMade σ i _ (w.proceeds_newRef _)
      · exact .refl _
  | act place call a =>
      dsimp only [Switchboard.move, disposes, Refused]
      cases σ.wrappers[place]? with
      | none => exact .of_not (.refl _) id
      | some w => exact frees_useWrapper σ i place w call a
  | disown place =>
      refine .of_not ?_ id
      dsimp only [Switchboard.move]
      split <;> exact .refl _
  | drop place =>
      refine .of_not ?_ id
      dsimp only [Switchboard.move]
      split
      · next w _ => exact put (proceeds_schedulePointer _ w.owed)
      · exact .refl _
  | adopt | register => exact .of_not (.refl _) id
  | table a => exact .of_not (.refl _) id
  | dispatch t m c | callback t m c => exact .of_not (proceeds_dispatch σ i _ t m c) id
  | deliver c place m =>
      refine .of_not ?_ id
      dsimp only [Switchboard.move]
      split
      · exact proceeds_dispatch σ i _ _ m _
      · exact .refl _
  | send c place timeout d =>
      refine .of_not ?_ id
      dsimp only [Switchboard.move]
      split
      · next w _ => exact (proceeds_send { σ with wrappers := σ.wrappers.eraseIdx place } i _ c w
          timeout d :)
      · exact .refl _

end Switchboard

end Custody
