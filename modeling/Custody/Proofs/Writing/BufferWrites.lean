import Custody.Proofs.Writing.Drafts
import Custody.Proofs.Writing.Refusals

/-! Writing a buffer into a message is three calls: an array is opened, given the bytes in one piece, and
closed. What is left when they do not all succeed: an array that could not be filled is closed all the
same, and a buffer that was released counts as one without bytes.
-/

namespace Custody

open State

/-- Nothing keeps a container from being opened at a position, and from being closed there. -/
structure State.Boxes (s : State) (q : Ref Native.BodyCursor) : Prop where
  opens : s.world.planned.noContainer = false
  calm : (s.bodyCursor q).failNext = false
  closes : s.world.planned.noClose = false

/-- A block of bytes is not taken: there are too many, or the native side refuses. -/
def State.RefusesBlock (s : State) (slice : Slice) : Prop :=
  UInt32.size ≤ slice.length ∨ s.world.planned.noFixedArray = true

/-- A buffer was written at a position, all or nothing: either it is live, and its bytes are in the one
array that was added; or there is an error, and everything is as it was, with its signature.
-/
def BodyCursor.AllOrNothing (q : Ref Native.BodyCursor) (b : Buffer) (s : State)
    (done : Attempt BusError Unit) : Prop :=
  match done with
  | (.ok (), t) =>
      ∃ k,
        b.raw = some k
        ∧ Signed (s.site q) (.box 'a' (.one 'y' (.bytes (s.buffer k).bytes))) "ay" s t
  | (.error _, t) => Still s t

variable {s t u v : State} {q p : Ref Native.BodyCursor} {b : Buffer}

theorem State.writeBlock_aside (s : State) (bytes : List UInt8) (apart : q ≠ p)
    : (s.writeBlock p bytes).2.world.planned.noClose = s.world.planned.noClose
      ∧ (s.writeBlock p bytes).2.bodyCursor q = s.bodyCursor q := by
  have taken : (s.takeCursorFailure p).2.bodyCursor q = s.bodyCursor q :=
    bodyCursor_setBodyCursor_of_ne s _ apart
  unfold writeBlock
  split
  · exact ⟨rfl, rfl⟩
  · refine of_failed_or
      (P := fun t => t.world.planned.noClose = s.world.planned.noClose
        ∧ t.bodyCursor q = s.bodyCursor q) ⟨rfl, taken⟩ fun t same => ?_
    exact ⟨same.1, (bodyCursor_setBodyCursor_of_ne t _ apart).trans same.2⟩

namespace BodyCursor

-----------------------------------------------------------------------------------------
-- The three calls
-----------------------------------------------------------------------------------------

/-- A buffer shows the same bytes after a position was made. -/
theorem slice_newBodyCursor (b : Buffer) (c : Native.BodyCursor)
    : (b.slice (s.newBodyCursor c).2).1 = (b.slice s).1 := by
  obtain ⟨raw, own⟩ := b
  cases raw <;> rfl

/-- The answer of a write of a buffer is the first error of filling the array and closing it. -/
theorem appendBuffer_of_calls {c inner : BodyCursor} {filled closed : Except BusError Unit}
    (opened : c.openContainer .array (some "y") s = (.ok inner, t))
    (filling : inner.appendFixed .byte (b.slice t).1 (b.slice t).2 = (filled, u))
    (closing : c.closeContainer inner u = (closed, v))
    : c.appendBuffer b s = (filled.bind fun _ => closed, v) := by
  rw [appendBuffer, opened, Attempt.andThen_ok]
  simp only [filling, closing]

/-- A block of bytes leaves the other positions alone, and plans nothing about closing. -/
theorem appendFixed_aside (k : ArgumentType) (slice : Slice) (apart : q ≠ p)
    : (BodyCursor.appendFixed ⟨some p⟩ k slice s).2.world.planned.noClose = s.world.planned.noClose
      ∧ (BodyCursor.appendFixed ⟨some p⟩ k slice s).2.bodyCursor q = s.bodyCursor q := by
  rw [appendFixed, State.live, Attempt.andThen_ok]
  split
  · exact ⟨rfl, rfl⟩
  · exact of_written_or
      (P := fun t => t.world.planned.noClose = s.world.planned.noClose
        ∧ t.bodyCursor q = s.bodyCursor q)
      (s.writeBlock_aside slice.bytes apart) fun t same => same

/-- When the array was opened and the buffer asked for its bytes, they are the same, as is all that the next
two calls turn on.
-/
theorem slice_opened {inner : BodyCursor} (old : q.index < s.cursorCount) (b : Buffer)
    (opened : BodyCursor.openContainer ⟨some q⟩ .array (some "y") s = (.ok inner, t))
    : (b.slice t).1 = (b.slice s).1
      ∧ (b.slice t).2.world.planned = s.world.planned
      ∧ (b.slice t).2.bodyCursor q = s.bodyCursor q
      ∧ ((b.slice t).2.bodyCursor ⟨s.cursorCount⟩).failNext = false := by
  obtain ⟨-, rfl⟩ := openContainer_ok old opened
  have same := b.sameBus_slice
    (s.newBodyCursor { code := ArgumentType.array.code, contained := (some "y").getD "" }).2
  refine ⟨slice_newBodyCursor b _, same.planned, ?_, ?_⟩
  · rw [State.bodyCursor, same.bodyCursors]
    exact s.bodyCursor_newBodyCursor_of_old _ old
  · rw [State.bodyCursor, same.bodyCursors]
    exact congrArg Native.BodyCursor.failNext (s.bodyCursor_newBodyCursor_self _)

/-- Filling a container changes its inside alone, and nothing when it is refused. -/
theorem changed_appendFixed {k : ArgumentType} {slice : Slice} {filled : Except BusError Unit}
    (old : q.index < s.cursorCount)
    (filling : BodyCursor.appendFixed ⟨some q⟩ k slice s = (filled, t))
    : ChangedAt (.inside q) s t := by
  cases filled with
  | error e => exact still_appendFixed old filling _
  | ok _ => exact (signed_appendFixed old filling).toChangedAt

theorem answer_openArray (old : q.index < s.cursorCount)
    : (BodyCursor.openContainer ⟨some q⟩ .array (some "y") s).1
      = if s.world.planned.noContainer || (s.bodyCursor q).failNext then .error (.containerOpen 'a')
        else .ok ⟨some ⟨s.cursorCount⟩⟩ :=
  answer_openContainer old rfl rfl

/-- The three calls, once the array is opened. Between its opening and its closing only its inside
changes.
-/
theorem three_calls (old : q.index < s.cursorCount) (b : Buffer)
    (opens : s.world.planned.noContainer = false) (calm : (s.bodyCursor q).failNext = false)
    : ∃ t u v,
        BodyCursor.openContainer ⟨some q⟩ .array (some "y") s = (.ok ⟨some ⟨s.cursorCount⟩⟩, t)
        ∧ BodyCursor.appendFixed ⟨some ⟨s.cursorCount⟩⟩ .byte (b.slice t).1 (b.slice t).2
          = (if UInt32.size ≤ (b.slice s).1.length || s.world.planned.noFixedArray
              then .error (.appendToCursor 'y')
              else .ok (), u)
        ∧ BodyCursor.closeContainer ⟨some q⟩ ⟨some ⟨s.cursorCount⟩⟩ u
          = (if s.world.planned.noClose then .error .containerClose else .ok (), v) := by
  have answer := answer_openArray old
  rw [opens, calm, Bool.or_false, if_neg Bool.false_ne_true] at answer
  obtain ⟨t, opened⟩ : ∃ t,
      BodyCursor.openContainer ⟨some q⟩ .array (some "y") s
        = (.ok ⟨some ⟨s.cursorCount⟩⟩, t) := ⟨_, Prod.ext answer rfl⟩
  obtain ⟨bytes, planned, kept, blank⟩ := slice_opened old b opened
  have apart : q ≠ ⟨s.cursorCount⟩ := by
    rintro rfl
    exact Nat.lt_irrefl _ old
  have filled := answer_appendFixed (s := (b.slice t).2) (q := ⟨s.cursorCount⟩) (b.slice t).1
  rw [planned, blank, Bool.or_false, bytes] at filled
  obtain ⟨closes, kept⟩ : _ ∧ _ := by
    have aside := appendFixed_aside (s := (b.slice t).2) .byte (b.slice t).1 apart
    rwa [planned, kept, bytes] at aside
  have closed := answer_closeContainer (q := q) (p := ⟨s.cursorCount⟩)
    (s := (BodyCursor.appendFixed ⟨some ⟨s.cursorCount⟩⟩ .byte (b.slice s).1 (b.slice t).2).2)
  rw [closes, kept, calm, Bool.or_false] at closed
  refine ⟨t, _, _, opened, ?_, Prod.ext closed rfl⟩
  rw [bytes]
  exact Prod.ext filled rfl

-----------------------------------------------------------------------------------------
-- What is left
-----------------------------------------------------------------------------------------

/-- Where the array cannot be opened, or not be closed, nothing is written. -/
theorem still_appendBuffer (old : q.index < s.cursorCount) (b : Buffer) (stuck : ¬ s.Boxes q)
    : ∃ e t, BodyCursor.appendBuffer ⟨some q⟩ b s = (.error e, t) ∧ Still s t := by
  have went := still_openContainer old .array (some "y")
  cases shut : s.world.planned.noContainer || (s.bodyCursor q).failNext with
  | true =>
      have answer := answer_openArray old
      rw [shut, if_pos rfl] at answer
      obtain ⟨t, refused⟩ : ∃ t,
          BodyCursor.openContainer ⟨some q⟩ .array (some "y") s = (.error (.containerOpen 'a'), t) :=
        ⟨_, Prod.ext answer rfl⟩
      rw [refused] at went
      refine ⟨.containerOpen 'a', t, ?_, went⟩
      rw [appendBuffer, refused, Attempt.andThen_error]
  | false =>
      obtain ⟨opens, calm⟩ := Bool.or_eq_false_iff.1 shut
      obtain ⟨t, u, v, opened, filling, closing⟩ := three_calls old b opens calm
      have jammed : s.world.planned.noClose = true := by
        cases closes : s.world.planned.noClose with
        | true => rfl
        | false => exact absurd ⟨opens, calm, closes⟩ stuck
      rw [jammed, if_pos rfl] at closing
      rw [opened] at went
      have new := lt_cursorCount_openContainer old opened
      have shown := Still.of_sameBus (b.sameBus_slice t)
      -- What is inside the array stays there, and no site that there was has it.
      have inside := (shown _).trans (changed_appendFixed (shown.old new) filling)
      have sofar : Still s u := fun e => (went e).aside inside (Nat.lt_irrefl s.cursorCount)
      have still := sofar.trans (still_closeContainer (sofar.old old) closing)
      rw [appendBuffer_of_calls opened filling closing]
      split
      · exact ⟨_, v, rfl, still⟩
      · exact ⟨_, v, rfl, still⟩

/-- Where the bytes are refused, the array is closed without them. -/
theorem appendBuffer_of_refused (old : q.index < s.cursorCount) (b : Buffer) (boxes : s.Boxes q)
    (refused : s.RefusesBlock (b.slice s).1)
    : ∃ t,
        BodyCursor.appendBuffer ⟨some q⟩ b s = (.error (.appendToCursor 'y'), t)
        ∧ Signed (s.site q) (.box 'a' .empty) "ay" s t := by
  obtain ⟨t, u, v, opened, filling, closing⟩ := three_calls old b boxes.opens boxes.calm
  rw [if_pos (by simpa [State.RefusesBlock] using refused)] at filling
  rw [boxes.closes, if_neg Bool.false_ne_true] at closing
  have new := lt_cursorCount_openContainer old opened
  have shown := Still.of_sameBus (b.sameBus_slice t)
  have still := shown.trans (still_appendFixed (shown.old new) filling)
  refine ⟨v, appendBuffer_of_calls opened filling closing, ?_⟩
  exact signed_box old opened (still.nothing new) closing

/-- Where nothing is refused, the bytes that the buffer shows are written. -/
theorem appendBuffer_of_taken (old : q.index < s.cursorCount) (b : Buffer) (boxes : s.Boxes q)
    (taken : ¬ s.RefusesBlock (b.slice s).1)
    : ∃ t,
        BodyCursor.appendBuffer ⟨some q⟩ b s = (.ok (), t)
        ∧ Signed (s.site q) (.box 'a' (.one 'y' (.bytes (b.slice s).1.bytes))) "ay" s t := by
  obtain ⟨t, u, v, opened, filling, closing⟩ := three_calls old b boxes.opens boxes.calm
  rw [if_neg (by simpa [State.RefusesBlock] using taken)] at filling
  rw [boxes.closes, if_neg Bool.false_ne_true] at closing
  obtain ⟨bytes, -, -, -⟩ := slice_opened old b opened
  have new := lt_cursorCount_openContainer old opened
  have shown := Still.of_sameBus (b.sameBus_slice t)
  have block := (signed_appendFixed (shown.old new) filling).after shown new
  rw [bytes] at block
  refine ⟨v, appendBuffer_of_calls opened filling closing, ?_⟩
  exact signed_box old opened block closing

/-- A buffer is written all or nothing, unless its bytes are refused or there is none behind the wrapper,
and nothing else stops the array.
-/
theorem allOrNothing_iff (old : q.index < s.cursorCount) (b : Buffer)
    : AllOrNothing q b s (BodyCursor.appendBuffer ⟨some q⟩ b s)
      ↔ ¬ (s.Boxes q ∧ (b.raw = none ∨ s.RefusesBlock (b.slice s).1)) := by
  by_cases boxes : s.Boxes q
  · by_cases refused : s.RefusesBlock (b.slice s).1
    · obtain ⟨t, done, half⟩ := appendBuffer_of_refused old b boxes refused
      have changed := half.not_still Nat.zero_lt_one (hasSite_site old)
      rw [done]
      exact iff_of_false changed fun safe => safe ⟨boxes, .inr refused⟩
    · obtain ⟨t, done, whole⟩ := appendBuffer_of_taken old b boxes refused
      rw [done]
      cases live : b.raw with
      | none =>
          refine iff_of_false ?_ fun safe => safe ⟨boxes, .inl rfl⟩
          rintro ⟨k, some, -⟩
          exact nomatch live.symm.trans some
      | some k =>
          have bytes : (b.slice s).1.bytes = (s.buffer k).bytes := by
            simp [Buffer.slice, Handle.use, live, Slice.bytes]
          rw [bytes] at whole
          refine iff_of_true ⟨k, live, whole⟩ ?_
          rintro ⟨-, null | refuses⟩
          · cases null
          · exact refused refuses
  · obtain ⟨e, t, done, still⟩ := still_appendBuffer old b boxes
    rw [done]
    exact iff_of_true still fun stuck => boxes stuck.1

/-- A buffer is written all or nothing, wherever a position writes, unless the array could be opened and
closed, and its bytes were refused or there is no buffer behind the wrapper. Bytes that are refused leave
an array without them, and an error; a buffer that was released leaves an array with a block of no bytes,
and no error.
-/
theorem appendBuffer_all_or_nothing_iff (old : q.index < s.cursorCount) (b : Buffer)
    : (AllOrNothing q b s (BodyCursor.appendBuffer ⟨some q⟩ b s)
        ↔ ¬ (s.Boxes q ∧ (b.raw = none ∨ s.RefusesBlock (b.slice s).1)))
      ∧ (s.Boxes q
        → s.RefusesBlock (b.slice s).1
        → ∃ t,
            BodyCursor.appendBuffer ⟨some q⟩ b s = (.error (.appendToCursor 'y'), t)
            ∧ Signed (s.site q) (.box 'a' .empty) "ay" s t)
      ∧ (s.Boxes q
        → ¬ s.RefusesBlock (b.slice s).1
        → b.raw = none
        → ∃ t,
            BodyCursor.appendBuffer ⟨some q⟩ b s = (.ok (), t)
            ∧ Signed (s.site q) (.box 'a' (.one 'y' (.bytes []))) "ay" s t) := by
  refine ⟨allOrNothing_iff old b, appendBuffer_of_refused old b, ?_⟩
  intro boxes taken released
  have none : (b.slice s).1.bytes = [] := by
    simp [Buffer.slice, Handle.use, released, Slice.bytes]
  obtain ⟨t, done, wrote⟩ := appendBuffer_of_taken old b boxes taken
  rw [none] at wrote
  exact ⟨t, done, wrote⟩

/-- A world with a writer at the end of a message and a buffer of two bytes, which are going to be
refused.
-/
def refusingState : State :=
  blobState.plan ({ · with noFixedArray := true })

/-- The buffer of that world. -/
def refusedBuffer : Buffer :=
  { raw := some ⟨0⟩, own := true }

theorem refusingState_boxes
    : refusingState.Boxes ⟨0⟩ :=
  ⟨rfl, rfl, rfl⟩

/-- The bytes are refused, and an array without them is in the message. -/
theorem refusedBuffer_half_written
    : (⟨0⟩ : Ref Native.BodyCursor).index < refusingState.cursorCount
      ∧ ∃ t,
          blobWriter.appendBuffer refusedBuffer refusingState = (.error (.appendToCursor 'y'), t)
          ∧ (t.message ⟨0⟩).body = (refusingState.message ⟨0⟩).body ++ .box 'a' .empty
          ∧ (t.message ⟨0⟩).signature = "iay" := by
  have old : (⟨0⟩ : Ref Native.BodyCursor).index < refusingState.cursorCount := Nat.zero_lt_one
  obtain ⟨-, half, -⟩ := appendBuffer_all_or_nothing_iff old refusedBuffer
  obtain ⟨t, done, wrote⟩ := half refusingState_boxes (.inr rfl)
  exact ⟨old, t, done, wrote.written, wrote.signed rfl⟩

/-- So a buffer is not always written all or nothing. -/
theorem refusedBuffer_neither_all_nor_nothing
    : ¬ ∀ (s : State) (q : Ref Native.BodyCursor) (b : Buffer),
        q.index < s.cursorCount → AllOrNothing q b s (BodyCursor.appendBuffer ⟨some q⟩ b s) := by
  intro always
  have here := always refusingState ⟨0⟩ refusedBuffer Nat.zero_lt_one
  exact (allOrNothing_iff Nat.zero_lt_one refusedBuffer).1 here
    ⟨refusingState_boxes, .inr (.inr rfl)⟩

end BodyCursor

end Custody
