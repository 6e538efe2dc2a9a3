import Custody.Bus.Error
import Custody.Bus.Store
import Custody.Cursor

/-! What operations are made of besides frees and references: small updates of the world, each of them
tame. What every tame update keeps, an operation made of them keeps, without a word about the operation
itself.
-/

namespace Custody

namespace State

/-- The second state comes from the first by updates that free nothing, let nothing wait, leave the
references to messages, and what messages and calls are about, as they are, and bring no NUL into a
signature.
-/
inductive Tame : State → State → Prop
  | refl (s : State) : Tame s s
  | trans {s t u : State} (first : Tame s t) (second : Tame t u) : Tame s u
  | note (s : State) (e : Event) : Tame s (s.note e)
  | kindNumber (s : State) (kind : Ref LazyKind) : Tame s (s.kindNumber kind).2
  | raise (s : State) (number : ErrorNumber) : Tame s (s.raise number)
  | setBuffer {s : State} {r : Ref Native.Buffer} {b : Native.Buffer}
      (frees : b.frees = (s.buffer r).frees)
    : Tame s (s.setBuffer r b)
  | newBuffer (s : State) : Tame s s.newBuffer.2
  /-- The failure that waits for the next write of the thread is used up. -/
  | written (s : State) : Tame s { s with thread := { s.thread with failAppend := false } }
  | setCursor {s : State} {r : Ref Native.Cursor} {c : Native.Cursor}
      (frees : c.frees = (s.cursor r).frees)
    : Tame s (s.setCursor r c)
  | setMessage {s : State} {r : Ref Native.Message} {m : Native.Message}
      (refs : m.refs = (s.message r).refs) (unrefs : m.unrefs = (s.message r).unrefs)
      (method : m.method = (s.message r).method)
      (fits
        : ZeroTerminated.fits (s.message r).signature = true
          → ZeroTerminated.fits m.signature = true)
    : Tame s (s.setMessage r m)
  | setCall {s : State} {r : Ref Native.PendingCall} {c : Native.PendingCall}
      (method : c.method = (s.call r).method)
    : Tame s (s.setCall r c)
  /-- Only the positions in bodies change. -/
  | bodyCursors {s t : State}
      (same : t = { s with world := { s.world with bodyCursors := t.world.bodyCursors } })
    : Tame s t
  /-- Only the planned answers change, and no name is planned for a call where none was. -/
  | planned {s t : State}
      (same : t = { s with world := { s.world with planned := t.world.planned } })
      (named : s.world.planned.callMethod = none → t.world.planned.callMethod = none)
    : Tame s t

/-- What holds where a failure was used up, and of what goes on where none waited, holds in either case. -/
theorem of_failed_or {α : Type} {P : State → Prop} {taken : Bool × State} {failed : α}
    {next : State → α × State}
    : P taken.2
      → (∀ t, P t → P (next t).2)
      → P
          (match taken with
          | (true, s) => (failed, s)
          | (false, s) => next s).2 := by
  intro first goesOn
  obtain ⟨_ | _, t⟩ := taken
  · exact goesOn t first
  · exact first

/-- What holds after a write, and of a report after it, holds whether the write was refused or not. -/
theorem of_written_or {P : State → Prop} {written : Bool × State} {e : BusError} {event : Event}
    : P written.2
      → (∀ t, P t → P (t.note event))
      → P
          (match written with
            | (true, s) => (.ok (), s)
            | (false, s) => (.error e, s.note event) : Attempt BusError Unit).2 := by
  intro went reported
  obtain ⟨_ | _, t⟩ := written
  · exact reported t went
  · exact went

variable {s t : State}

/-- What comes after something tame. -/
theorem Tame.after {u : State} (second : Tame t u) (first : Tame s t)
    : Tame s u :=
  first.trans second

/-- An attempt that goes on is tame if both parts are. -/
theorem Tame.andThen {ε α β : Type} {a : Attempt ε α} {next : α → State → Attempt ε β}
    (first : Tame s a.2) (second : ∀ x t, Tame t (next x t).2)
    : Tame s (a.andThen next).2 := by
  obtain ⟨e | x, t⟩ := a
  · exact first
  · exact first.trans (second x t)

theorem tame_raiseNullHandle (s : State) (realm : Realm)
    : Tame s (s.raiseNullHandle realm) := by
  have noted := Tame.note s (.usedAfterRelease realm)
  have numbered := (Tame.kindNumber _ realm.nullHandleKind).after noted
  exact (Tame.raise _ _).after numbered

/-- A use of a live wrapper does what its act does. -/
theorem tame_use {α β : Type} [Freeable α] (h : Handle α) (realm : Realm) (fallback : β)
    {act : Ref α → State → β × State} (s : State) (acts : ∀ r, Tame s (act r s).2)
    : Tame s (h.use realm fallback act s).2 := by
  unfold Handle.use
  cases h.raw with
  | none => exact tame_raiseNullHandle s realm
  | some r => exact acts r

theorem tame_live {α : Type} (s : State) (raw : Option (Ref α))
    : Tame s (s.live raw).2 := by
  cases raw with
  | none => exact tame_raiseNullHandle s .bus
  | some r => exact .refl s

-----------------------------------------------------------------------------------------
-- Buffers and cursors
-----------------------------------------------------------------------------------------

theorem tame_takeWriteFailure (s : State) (r : Ref Native.Buffer)
    : Tame s (s.takeWriteFailure r) := by
  refine .trans (.written s) ?_
  exact .setBuffer rfl

theorem tame_setContents (s : State) (r : Ref Native.Buffer) (bytes : List UInt8)
    : Tame s (s.setContents r bytes) :=
  .setBuffer rfl

theorem tame_writeAt (s : State) (r : Ref Native.Buffer) (bytes : List UInt8) (pos : Nat)
    : Tame s (s.writeAt r bytes pos).2 := by
  have calmed := s.tame_takeWriteFailure r
  unfold writeAt
  dsimp only
  split
  · exact calmed
  · exact (tame_setContents _ r _).after calmed

theorem tame_cut (s : State) (r : Ref Native.Buffer) (start stop : Nat)
    : Tame s (s.cut r start stop).2 := by
  have calmed := s.tame_takeWriteFailure r
  unfold cut
  dsimp only
  split
  · exact calmed
  · exact (tame_setContents _ r _).after calmed

theorem tame_nextElement (s : State) (r : Ref Native.Cursor)
    : Tame s (s.nextElement r).2 := by
  unfold nextElement
  dsimp only
  split <;> exact .setCursor rfl

-----------------------------------------------------------------------------------------
-- The bus
-----------------------------------------------------------------------------------------

theorem tame_messageSignature (s : State) (r : Ref Native.Message)
    : Tame s (s.messageSignature r).2 := by
  unfold messageSignature
  split
  · exact .planned rfl id
  · exact .refl s

theorem tame_messageFault (s : State) (r : Ref Native.Message)
    : Tame s (s.messageFault r).2 := by
  unfold messageFault
  split
  · exact .planned rfl id
  · exact .refl s

theorem tame_writeMessage (s : State) (r : Ref Native.Message) (a : Argument)
    : Tame s (s.writeMessage r a).2 := by
  unfold writeMessage
  dsimp only
  split
  · exact .setMessage rfl rfl rfl id
  · exact .setMessage rfl rfl rfl fun _ => ZeroTerminated.fits_kept _

theorem tame_makeBodyCursor (s : State) (r : Ref Native.Message)
    : Tame s (s.makeBodyCursor r).2 := by
  unfold makeBodyCursor
  split
  · exact .planned rfl id
  · exact .bodyCursors rfl

theorem tame_push (s : State) (r : Ref Native.BodyCursor) (values : Body) (signature : String)
    : Tame s (s.push r values signature) := by
  unfold push
  split
  · exact .setMessage rfl rfl rfl fun _ => ZeroTerminated.fits_kept _
  · exact .bodyCursors rfl

theorem tame_takeCursorFailure (s : State) (r : Ref Native.BodyCursor)
    : Tame s (s.takeCursorFailure r).2 :=
  .bodyCursors rfl

theorem tame_writeCursor (s : State) (r : Ref Native.BodyCursor) (a : Argument)
    : Tame s (s.writeCursor r a).2 := by
  refine of_failed_or (P := Tame s) (s.tame_takeCursorFailure r) fun t failed => ?_
  exact (tame_push t r _ _).after failed

theorem tame_openAt (s : State) (r : Ref Native.BodyCursor) (code : Char) (contained : String)
    : Tame s (s.openAt r code contained).2 := by
  unfold openAt
  split
  · exact .planned rfl id
  · refine of_failed_or (P := Tame s) (s.tame_takeCursorFailure r) fun t failed => ?_
    exact failed.trans (.bodyCursors rfl)

theorem tame_closeAt (s : State) (r inner : Ref Native.BodyCursor)
    : Tame s (s.closeAt r inner).2 := by
  unfold closeAt
  split
  · exact .planned rfl id
  · refine of_failed_or (P := Tame s) (s.tame_takeCursorFailure r) fun t failed => ?_
    have emptied : Tame s (t.setBodyCursor inner { t.bodyCursor inner with items := .empty }) :=
      failed.trans (.bodyCursors rfl)
    exact (tame_push _ r _ _).after emptied

theorem tame_writeBlock (s : State) (r : Ref Native.BodyCursor) (bytes : List UInt8)
    : Tame s (s.writeBlock r bytes).2 := by
  unfold writeBlock
  split
  · exact .planned rfl id
  · refine of_failed_or (P := Tame s) (s.tame_takeCursorFailure r) fun t failed => ?_
    exact failed.trans (.bodyCursors rfl)

theorem tame_restSignature (s : State) (r : Ref Native.BodyCursor)
    : Tame s (s.restSignature r).2 := by
  unfold restSignature
  split
  · exact .planned rfl id
  · exact .refl s

/-- A value that is passed, and perhaps entered. -/
theorem tame_readSlot (s : State) (r : Ref Native.BodyCursor) (code : Char)
    : Tame s (s.readSlot r code).2 := by
  unfold readSlot
  split
  · exact .planned rfl id
  · split
    · exact .refl s
    · split
      · exact .refl s
      · split <;> exact .bodyCursors rfl
    · split
      · exact .refl s
      · split <;> exact .bodyCursors rfl

theorem tame_readBlock (s : State) (r : Ref Native.BodyCursor)
    : Tame s (s.readBlock r).2 := by
  unfold readBlock
  split
  · exact .planned rfl id
  · exact .refl s

end State

end Custody
