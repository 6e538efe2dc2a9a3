import Custody.Dispatch
import Custody.Proofs.ByteLists.Reference
import Custody.Proofs.Updates.Tame

/-! Operations on wrappers that are tame: all but those that free, and those that make or hand over a
message.
-/

namespace Custody

open State

-----------------------------------------------------------------------------------------
-- Buffers
-----------------------------------------------------------------------------------------

/-- An edit reports a wrapper or a wrong length, or it is one write or one cut. -/
theorem Edit.tame_run (e : Edit Buffer) (b : Buffer) (s : State)
    : Tame s (e.run b s).2 := by
  cases e with
  | append | appendLen | insert | insertLen =>
      refine tame_use b .data false s fun r => ?_
      split
      · exact .note s _
      · exact s.tame_writeAt r _ _
  | appendByte | appendSlice | insertByte | insertSlice =>
      exact tame_use b .data false s fun r => s.tame_writeAt r _ _
  | appendBuffer source =>
      refine tame_use b .data false s fun r => ?_
      exact tame_use source .data false s fun q => s.tame_writeAt r _ _
  | remove start stop => exact tame_use b .data false s fun r => s.tame_cut r start stop

theorem Question.tame_ask (q : Question) (b : Buffer) (s : State)
    : Tame s (q.ask b s).2 := by
  obtain ⟨raw, own⟩ := b
  cases raw with
  | none => cases q <;> exact tame_raiseNullHandle s .data
  | some r => cases q <;> exact .refl s

namespace Buffer

theorem tame_reset (b : Buffer) (s : State)
    : Tame s (b.reset s) :=
  tame_use b .data () s fun r => s.tame_setContents r []

theorem tame_new (s : State)
    : Tame s (new s).2 := by
  have allocated := Tame.newBuffer s
  unfold new
  generalize s.newBuffer = made at allocated ⊢
  obtain ⟨_ | r, t⟩ := made
  · exact allocated.trans (.note t _)
  · exact allocated

end Buffer

-----------------------------------------------------------------------------------------
-- Cursors
-----------------------------------------------------------------------------------------

namespace Cursor

variable {k : ElementKind}

theorem tame_next (c : Cursor k) (s : State)
    : Tame s (c.next s).2.2 := by
  unfold next
  split
  · exact .refl s
  · split
    · exact .refl s
    · next r _ =>
        have asked := s.tame_nextElement r
        generalize s.nextElement r = drawn at asked ⊢
        obtain ⟨_ | e, t⟩ := drawn <;> exact asked

/-- By induction on the number of values. -/
theorem tame_take (n : Nat) (c : Cursor k) (s : State)
    : Tame s (take n c s).2.2 := by
  induction n generalizing c s with
  | zero => exact .refl s
  | succ n ih =>
      have asked := tame_next c s
      unfold take
      generalize c.next s = drawn at asked ⊢
      obtain ⟨_ | v, c, t⟩ := drawn
      · exact asked
      · exact asked.trans (ih c t)

theorem tame_lock (c : Cursor k) (s : State)
    : Tame s (c.lock s).2 :=
  tame_use c.handle .data false s fun _ => .setCursor rfl

theorem tame_unlock (c : Cursor k) (s : State)
    : Tame s (c.unlock s).2 :=
  tame_use c.handle .data false s fun _ => .setCursor rfl

theorem tame_container (c : Cursor k) (s : State)
    : Tame s (c.container s).2 :=
  tame_use c.handle .data none s fun _ => .refl s

end Cursor

-----------------------------------------------------------------------------------------
-- Positions in bodies
-----------------------------------------------------------------------------------------

namespace BodyCursor

theorem tame_append (c : BodyCursor) (a : Argument) (s : State)
    : Tame s (c.append a s).2 := by
  refine (tame_live s c.raw).andThen fun r t => ?_
  split
  · exact .refl t
  · exact of_written_or (tame_writeCursor t r a) fun u went => went.trans (.note u _)

theorem tame_openContainer (c : BodyCursor) (t : ArgumentType) (contained : Option String)
    (s : State)
    : Tame s (c.openContainer t contained s).2 := by
  refine (tame_live s c.raw).andThen fun r u => ?_
  have went := tame_openAt u r t.code (contained.getD "")
  split
  · exact .refl u
  · split
    · exact .refl u
    · generalize u.openAt r t.code (contained.getD "") = opened at went ⊢
      obtain ⟨_ | inner, v⟩ := opened
      · exact went.trans (.note v _)
      · exact went

theorem tame_closeContainer (c inner : BodyCursor) (s : State)
    : Tame s (c.closeContainer inner s).2 := by
  refine (tame_live s c.raw).andThen fun r t => ?_
  refine (tame_live t inner.raw).andThen fun q u => ?_
  exact of_written_or (tame_closeAt u r q) fun v went => went.trans (.note v _)

theorem tame_appendFixed (c : BodyCursor) (t : ArgumentType) (slice : Slice) (s : State)
    : Tame s (c.appendFixed t slice s).2 := by
  refine (tame_live s c.raw).andThen fun r u => ?_
  split
  · exact .refl u
  · exact of_written_or (tame_writeBlock u r slice.bytes) fun v went => went.trans (.note v _)

theorem tame_appendBuffer (c : BodyCursor) (b : Buffer) (s : State)
    : Tame s (c.appendBuffer b s).2 := by
  refine (c.tame_openContainer .array (some "y") s).andThen fun inner t => ?_
  have shown : Tame t (b.slice t).2 := Question.slice.tame_ask b t
  have appended := (inner.tame_appendFixed .byte (b.slice t).1 _).after shown
  exact (c.tame_closeContainer inner _).after appended

theorem tame_signature (c : BodyCursor) (s : State)
    : Tame s (c.signature s).2 := by
  unfold signature
  split
  · exact tame_raiseNullHandle s .bus
  · exact tame_restSignature s _

theorem tame_currentType (c : BodyCursor) (s : State)
    : Tame s (c.currentType s).2 :=
  c.tame_signature s

theorem tame_read (c : BodyCursor) (s : State)
    : Tame s (c.read s).2 := by
  refine (tame_live s c.raw).andThen fun r t => ?_
  have told := c.tame_currentType t
  generalize c.currentType t = next at told ⊢
  obtain ⟨_ | type, u⟩ := next
  · exact told
  · have taken := (tame_readSlot u r type.code).after told
    dsimp only
    split
    · exact told
    · split <;> exact taken

/-- By induction on the number of values. -/
theorem tame_readMany (n : Nat) (c : BodyCursor) (s : State)
    : Tame s (readMany n c s).2 := by
  induction n generalizing s with
  | zero => exact .refl s
  | succ n ih =>
      refine (tame_read c s).andThen fun a t => ?_
      exact (ih t).andThen fun rest u => .refl u

theorem tame_readArray (c : BodyCursor) (s : State)
    : Tame s (c.readArray s).2 := by
  refine (tame_live s c.raw).andThen fun r t => ?_
  have taken := tame_readSlot t r ArgumentType.array.code
  split <;> next eq =>
    rw [eq] at taken
    exact taken

end BodyCursor

-----------------------------------------------------------------------------------------
-- Messages and pending calls
-----------------------------------------------------------------------------------------

namespace Message

theorem tame_signature (m : Message) (s : State)
    : Tame s (m.signature s).2 :=
  (tame_live s m.raw).andThen fun r t => tame_messageSignature t r

theorem tame_fault (m : Message) (s : State)
    : Tame s (m.fault s).2 :=
  (tame_live s m.raw).andThen fun r t => tame_messageFault t r

theorem tame_cursor (m : Message) (s : State)
    : Tame s (m.cursor s).2 := by
  refine (tame_live s m.raw).andThen fun r t => ?_
  have made : Tame t ((t.makeBodyCursor r).2.live (t.makeBodyCursor r).1).2 :=
    (tame_live _ _).after (tame_makeBodyCursor t r)
  exact made.andThen fun c u => .refl u

theorem tame_append (m : Message) (a : Argument) (s : State)
    : Tame s (m.append a s).2 := by
  refine (tame_live s m.raw).andThen fun r t => ?_
  split
  · exact .refl t
  · exact of_written_or (tame_writeMessage t r a) fun u went => went.trans (.note u _)

/-- By induction on the values. -/
theorem tame_appendAll (m : Message) (values : List Argument) (s : State)
    : Tame s (m.appendAll values s).2 := by
  induction values generalizing s with
  | nil => exact .refl s
  | cons a rest ih => exact (m.tame_append a s).andThen fun _ t => ih t

end Message

namespace PendingCall

theorem tame_method (p : PendingCall) (s : State)
    : Tame s (p.method s).2 := by
  refine (tame_live s p.raw).andThen fun r t => ?_
  split
  · exact .planned rfl fun _ => rfl
  · exact .refl t

theorem tame_cancel (p : PendingCall) (s : State)
    : Tame s (p.cancel s).2 :=
  (tame_live s p.raw).andThen fun _ _ => .setCall rfl

end PendingCall

-----------------------------------------------------------------------------------------
-- Delegates
-----------------------------------------------------------------------------------------

/-- The act makes no wrapper and frees nothing. -/
def Act.Tame : Act → Prop
  | readBytes | newRef | dispose => False
  | _ => True

/-- One case for each act. -/
theorem Seat.tame_perform (seat : Seat) (s : State) {a : Act} (tame : a.Tame)
    : State.Tame s (seat.perform s a).2.2 := by
  cases a with
  | owns | own | release => exact .refl s
  | signature => exact seat.reply.tame_signature s
  | fault => exact seat.reply.tame_fault s
  | currentType | cursorSignature =>
      refine (seat.reply.tame_cursor s).andThen fun c t => ?_
      exact c.tame_signature t
  | read n =>
      refine (seat.reply.tame_cursor s).andThen fun c t => ?_
      exact c.tame_readMany n t
  | append value => exact seat.reply.tame_append value s
  | method => exact seat.call.tame_method s
  | cancel =>
      have went := seat.call.tame_cancel s
      dsimp only [perform]
      generalize seat.call.cancel s = cancelled at went ⊢
      obtain ⟨e | call, t⟩ := cancelled <;> exact went
  | readBytes | newRef | dispose => exact tame.elim

end Custody
