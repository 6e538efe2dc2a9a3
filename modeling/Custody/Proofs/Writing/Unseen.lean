import Custody.Proofs.Reading.Views
import Custody.Proofs.Updates.Tame
import Custody.Proofs.Writing.Containers

/-! Writing is not seen by the readers there are. What is written to a message, or waits inside a
container, does not reach what a position has to read, not even at the position that writes.
-/

namespace Custody

open State

/-- The second state comes from the first by changes that no position has before it. -/
structure State.Unseen (s t : State) : Prop where
  unplanned : s.Unplanned → t.Unplanned
  calm : s.thread.Calm → t.thread.Calm
  count : s.cursorCount ≤ t.cursorCount
  view : ∀ q : Ref Native.BodyCursor, q.index < s.cursorCount → t.view q = s.view q

variable {s t u : State} {q p : Ref Native.BodyCursor}

namespace State

theorem Unseen.refl (s : State)
    : Unseen s s :=
  ⟨id, id, Nat.le_refl _, fun _ _ => rfl⟩

theorem Unseen.trans (first : Unseen s t) (second : Unseen t u)
    : Unseen s u where
  unplanned := second.unplanned ∘ first.unplanned
  calm := second.calm ∘ first.calm
  count := Nat.le_trans first.count second.count
  view q old := by
    rw [second.view q (Nat.lt_of_lt_of_le old first.count), first.view q old]

theorem Unseen.old (done : Unseen s t) (old : q.index < s.cursorCount)
    : q.index < t.cursorCount :=
  Nat.lt_of_lt_of_le old done.count

theorem Unseen.of_sameBus (same : s.SameBus t)
    : Unseen s t where
  unplanned unplanned := same.planned.trans unplanned
  calm := same.calm
  count := Nat.le_of_eq (congrArg Heap.size same.bodyCursors).symm
  view q _ := same.view q

theorem Unseen.note (s : State) (e : Event)
    : Unseen s (s.note e) :=
  ⟨id, id, Nat.le_refl _, fun _ _ => rfl⟩

theorem Unseen.setMessage (s : State) (r : Ref Native.Message) (m : Native.Message)
    : Unseen s (s.setMessage r m) :=
  ⟨id, id, Nat.le_refl _, fun _ _ => rfl⟩

/-- A planned answer that is used up was planned. -/
theorem Unseen.plan (s : State) {change : Native.PlannedAnswers → Native.PlannedAnswers}
    (blank : change {} = {})
    : Unseen s (s.plan change) where
  unplanned unplanned := (congrArg change unplanned).trans blank
  calm := id
  count := Nat.le_refl _
  view _ _ := rfl

theorem Unseen.newBodyCursor (s : State) (c : Native.BodyCursor)
    : Unseen s (s.newBodyCursor c).2 where
  unplanned := id
  calm := id
  count := Nat.le_of_lt (s.lt_cursorCount_newBodyCursor c)
  view _ old := view_newBodyCursor_of_old c old

theorem Unseen.setBodyCursor {c : Native.BodyCursor} (old : q.index < s.cursorCount)
    (same : c.view = s.view q)
    : Unseen s (s.setBodyCursor q c) where
  unplanned := id
  calm := id
  count := Nat.le_of_eq (cursorCount_setBodyCursor s c old).symm
  view p _ := by
    by_cases here : p = q
    · rw [here, State.view, bodyCursor_setBodyCursor_self, same]
    · rw [State.view, bodyCursor_setBodyCursor_of_ne s c here, State.view]

-----------------------------------------------------------------------------------------
-- The native side
-----------------------------------------------------------------------------------------

theorem unseen_writeMessage (s : State) (r : Ref Native.Message) (a : Argument)
    : Unseen s (s.writeMessage r a).2 := by
  unfold writeMessage
  dsimp only
  split <;> exact .setMessage s r _

theorem unseen_makeBodyCursor (s : State) (r : Ref Native.Message)
    : Unseen s (s.makeBodyCursor r).2 := by
  unfold makeBodyCursor
  split
  · dsimp only
    exact .plan s rfl
  · exact .newBodyCursor s _

theorem unseen_takeCursorFailure (old : q.index < s.cursorCount)
    : Unseen s (s.takeCursorFailure q).2 :=
  .setBodyCursor old rfl

theorem unseen_push (old : q.index < s.cursorCount) (values : Body) (text : String)
    : Unseen s (s.push q values text) := by
  unfold push
  split
  · exact .setMessage s _ _
  · exact .setBodyCursor old rfl

theorem unseen_writeCursor (old : q.index < s.cursorCount) (a : Argument)
    : Unseen s (s.writeCursor q a).2 := by
  refine of_failed_or (P := Unseen s) (unseen_takeCursorFailure old) fun t failed => ?_
  exact failed.trans (unseen_push (failed.old old) _ _)

theorem unseen_openAt (old : q.index < s.cursorCount) (code : Char) (contained : String)
    : Unseen s (s.openAt q code contained).2 := by
  unfold openAt
  split
  · dsimp only
    exact .plan s rfl
  · refine of_failed_or (P := Unseen s) (unseen_takeCursorFailure old) fun t failed => ?_
    exact failed.trans (.newBodyCursor t _)

theorem unseen_closeAt (old : q.index < s.cursorCount) (inner : p.index < s.cursorCount)
    : Unseen s (s.closeAt q p).2 := by
  unfold closeAt
  split
  · dsimp only
    exact .plan s rfl
  · refine of_failed_or (P := Unseen s) (unseen_takeCursorFailure old) fun t failed => ?_
    have emptied : Unseen s (t.setBodyCursor p { t.bodyCursor p with items := .empty }) :=
      failed.trans (.setBodyCursor (failed.old inner) rfl)
    exact emptied.trans (unseen_push (emptied.old old) _ _)

theorem unseen_writeBlock (old : q.index < s.cursorCount) (bytes : List UInt8)
    : Unseen s (s.writeBlock q bytes).2 := by
  unfold writeBlock
  split
  · dsimp only
    exact .plan s rfl
  · refine of_failed_or (P := Unseen s) (unseen_takeCursorFailure old) fun t failed => ?_
    exact failed.trans (.setBodyCursor (failed.old old) rfl)

end State

-----------------------------------------------------------------------------------------
-- Wrappers
-----------------------------------------------------------------------------------------

theorem State.Unseen.andThen {ε α β : Type} {a : Attempt ε α} {next : α → State → Attempt ε β}
    (first : Unseen s a.2) (second : ∀ x t, Unseen t (next x t).2)
    : Unseen s (a.andThen next).2 := by
  obtain ⟨e | x, t⟩ := a
  · exact first
  · exact first.trans (second x t)

theorem State.unseen_live {α : Type} (s : State) (raw : Option (Ref α))
    : Unseen s (s.live raw).2 := by
  cases raw with
  | none => exact .of_sameBus (s.sameBus_raiseNullHandle .bus)
  | some r => exact .refl s

namespace Message

theorem unseen_cursor (m : Message) (s : State)
    : Unseen s (m.cursor s).2 := by
  refine (s.unseen_live m.raw).andThen fun r t => ?_
  have made : Unseen t ((t.makeBodyCursor r).2.live (t.makeBodyCursor r).1).2 :=
    (t.unseen_makeBodyCursor r).trans (unseen_live _ _)
  exact made.andThen fun c u => .refl u

theorem unseen_append (m : Message) (a : Argument) (s : State)
    : Unseen s (m.append a s).2 := by
  refine (s.unseen_live m.raw).andThen fun r t => ?_
  split
  · exact .refl t
  · exact of_written_or (t.unseen_writeMessage r a) fun u went => went.trans (.note u _)

/-- By induction on the values. -/
theorem unseen_appendAll (m : Message) (values : List Argument) (s : State)
    : Unseen s (m.appendAll values s).2 := by
  induction values generalizing s with
  | nil => exact .refl s
  | cons a rest ih => exact (m.unseen_append a s).andThen fun _ t => ih t

end Message

namespace BodyCursor

theorem unseen_append (old : q.index < s.cursorCount) (a : Argument)
    : Unseen s (BodyCursor.append ⟨some q⟩ a s).2 := by
  rw [append, State.live, Attempt.andThen_ok]
  split
  · exact .refl s
  · exact of_written_or (unseen_writeCursor old a) fun u went => went.trans (.note u _)

theorem unseen_openContainer (old : q.index < s.cursorCount) (k : ArgumentType)
    (contained : Option String)
    : Unseen s (BodyCursor.openContainer ⟨some q⟩ k contained s).2 := by
  have went := unseen_openAt old k.code (contained.getD "")
  rw [openContainer, State.live, Attempt.andThen_ok]
  split
  · exact .refl s
  · split
    · exact .refl s
    · generalize s.openAt q k.code (contained.getD "") = opened at went ⊢
      obtain ⟨_ | inner, u⟩ := opened
      · exact went.trans (.note u _)
      · exact went

theorem unseen_closeContainer (old : q.index < s.cursorCount) (inner : p.index < s.cursorCount)
    : Unseen s (BodyCursor.closeContainer ⟨some q⟩ ⟨some p⟩ s).2 := by
  rw [closeContainer, State.live, Attempt.andThen_ok, State.live, Attempt.andThen_ok]
  exact of_written_or (unseen_closeAt old inner) fun u went => went.trans (.note u _)

theorem unseen_appendFixed (old : q.index < s.cursorCount) (k : ArgumentType) (slice : Slice)
    : Unseen s (BodyCursor.appendFixed ⟨some q⟩ k slice s).2 := by
  rw [appendFixed, State.live, Attempt.andThen_ok]
  split
  · exact .refl s
  · exact of_written_or (unseen_writeBlock old slice.bytes) fun u went => went.trans (.note u _)

/-- The container that is opened for a buffer is at a position of its own. -/
theorem unseen_appendBuffer (old : q.index < s.cursorCount) (b : Buffer)
    : Unseen s (BodyCursor.appendBuffer ⟨some q⟩ b s).2 := by
  have went := unseen_openContainer old .array (some "y")
  unfold appendBuffer
  cases opened : BodyCursor.openContainer ⟨some q⟩ .array (some "y") s with
  | mk answer t =>
      rw [opened] at went
      cases answer with
      | error e => exact went
      | ok inner =>
          obtain ⟨rfl, -⟩ := openContainer_ok old opened
          have new := lt_cursorCount_openContainer old opened
          have shown : Unseen t (b.slice t).2 := .of_sameBus (b.sameBus_slice t)
          have filled := shown.trans
            (unseen_appendFixed (q := ⟨s.cursorCount⟩) (shown.old new) .byte (b.slice t).1)
          have closed := unseen_closeContainer (filled.old (went.old old))
            (p := ⟨s.cursorCount⟩) (filled.old new)
          exact went.trans (filled.trans closed)

end BodyCursor

end Custody
