import Custody.Proofs.Updates.Tame
import Custody.Proofs.Writing.Signing

/-! When a write is refused, and what it leaves then: all that was written, with its signatures. A failure
that waited is used up, or an answer that was planned, and the refusal is reported.
-/

namespace Custody

open State

/-- A site that is not the given one. -/
def Site.other : Site → Site
  | .top _ => .inside ⟨0⟩
  | .inside _ => .top ⟨0⟩

theorem Site.ne_other (e : Site)
    : e ≠ e.other := by
  cases e <;> exact nofun

namespace State

/-- The second state is the first after changes at no site: whichever site may have changed, every site is
as it was.
-/
def Still (s t : State) : Prop :=
  ∀ e, ChangedAt e s t

variable {s t u : State} {d e : Site} {a : Body} {x : String} {q p : Ref Native.BodyCursor}
variable {r : Ref Native.Message}

namespace Still

theorem refl (s : State)
    : Still s s :=
  fun e => .refl e s

theorem trans (first : Still s t) (second : Still t u)
    : Still s u :=
  fun e => (first e).trans (second e)

/-- What was written at a site is there, and no more. -/
theorem written (done : Still s t) (has : s.HasSite d)
    : t.written d = s.written d :=
  (done d.other).others d has d.ne_other

/-- So is the signature beside it. -/
theorem signed (done : Still s t) (has : s.HasSite d)
    : t.signed d = s.signed d :=
  (done d.other).signatures d has d.ne_other

theorem count (done : Still s t)
    : s.cursorCount ≤ t.cursorCount :=
  (done (.top ⟨0⟩)).count

theorem old (done : Still s t) (old : q.index < s.cursorCount)
    : q.index < t.cursorCount :=
  Nat.lt_of_lt_of_le old done.count

/-- Nothing was written at any site. -/
theorem nothing (done : Still s t) (has : s.HasSite e)
    : Signed e .empty "" s t where
  toChangedAt := done e
  written := by rw [done.written has, Body.append_empty]
  fits := rfl
  signed _ := by rw [done.signed has, String.append_empty]

/-- Changes at one site that is as it was are changes at none. -/
theorem of_changedAt (done : ChangedAt e s t) (written : t.written e = s.written e)
    (signed : t.signed e = s.signed e)
    : Still s t := by
  intro e'
  refine { done with others := ?_, signatures := ?_ }
  · intro d has _
    by_cases here : d = e
    · rw [here, written]
    · exact done.others d has here
  · intro d has _
    by_cases here : d = e
    · rw [here, signed]
    · exact done.signatures d has here

end Still

/-- A site at which there is a value more is not as it was. -/
theorem Signed.not_still (done : Signed e a x s t) (some : 0 < a.length) (has : s.HasSite e)
    : ¬ Still s t := by
  intro still
  have longer := congrArg Body.length done.written
  rw [still.written has, Body.length_append] at longer
  omega

/-- What is written after nothing was is all that is written. -/
theorem Signed.after (second : Signed e a x t u) (first : Still s t) (has : s.HasSite e)
    : Signed e a x s u := by
  have both := (first.nothing has).trans second
  rwa [Body.empty_append, String.empty_append] at both

-----------------------------------------------------------------------------------------
-- Changes that write nothing
-----------------------------------------------------------------------------------------

theorem Still.of_sameBus (same : s.SameBus t)
    : Still s t := by
  intro e
  have message (r : Ref Native.Message) : t.message r = s.message r := by
    rw [State.message, State.message, same.messages]
  have position (q : Ref Native.BodyCursor) : t.bodyCursor q = s.bodyCursor q := by
    rw [State.bodyCursor, State.bodyCursor, same.bodyCursors]
  refine
    { unplanned := same.planned.trans
      calm := same.calm
      count := Nat.le_of_eq (congrArg Heap.size same.bodyCursors).symm
      others := fun d _ _ => ?_
      target := fun q _ => by rw [position]
      code := fun q _ => by rw [position]
      signatures := fun d _ _ => ?_
      contained := fun q _ => by rw [position] }
  · cases d with
    | top r => rw [State.written, State.written, message]
    | inside q => rw [State.written, State.written, position]
  · cases d with
    | top r => rw [State.signed, State.signed, message]
    | inside q => rw [State.signed, State.signed, position]

theorem Still.note (s : State) (event : Event)
    : Still s (s.note event) :=
  .of_sameBus ⟨id, rfl, rfl, rfl⟩

/-- A planned answer that is used up was planned. -/
theorem Still.plan (s : State) {change : Native.PlannedAnswers → Native.PlannedAnswers}
    (blank : change {} = {})
    : Still s (s.plan change) := by
  intro e
  have frame : ChangedAt e s s := .refl e s
  exact { frame with unplanned := fun unplanned => (congrArg change unplanned).trans blank }

theorem Still.newBodyCursor (s : State) (c : Native.BodyCursor)
    : Still s (s.newBodyCursor c).2 :=
  fun e => changed_newBodyCursor e s c

/-- Whatever else changes of a message, its body and its signature are as they were. -/
theorem Still.setMessage {m : Native.Message} (body : m.body = (s.message r).body)
    (signature : m.signature = (s.message r).signature)
    : Still s (s.setMessage r m) :=
  .of_changedAt (changed_setMessage s r m) (Heap.keeps_put _ body r)
    (Heap.keeps_put _ signature r)

/-- Whatever else changes of a position, what waits there is as it was. -/
theorem Still.setBodyCursor {c : Native.BodyCursor} (old : q.index < s.cursorCount)
    (items : c.items = (s.bodyCursor q).items) (signature : c.signature = (s.bodyCursor q).signature)
    (target : c.target = (s.bodyCursor q).target) (code : c.code = (s.bodyCursor q).code)
    (contained : c.contained = (s.bodyCursor q).contained)
    : Still s (s.setBodyCursor q c) :=
  .of_changedAt (changed_setBodyCursor old target code contained) (Heap.keeps_put _ items q)
    (Heap.keeps_put _ signature q)

/-- The failure that waits for the next write at a position is used up. -/
theorem still_takeCursorFailure (old : q.index < s.cursorCount)
    : Still s (s.takeCursorFailure q).2 :=
  .setBodyCursor old rfl rfl rfl rfl rfl

/-- Where no failure waits, asking for one changes nothing. -/
theorem takeCursorFailure_of_calm (old : q.index < s.cursorCount)
    (calm : (s.bodyCursor q).failNext = false)
    : s.takeCursorFailure q = (false, s) := by
  rcases takeCursorFailure_cases old with ⟨t, fails⟩ | still
  · have waits : (s.bodyCursor q).failNext = true := congrArg Prod.fst fails
    rw [calm] at waits
    cases waits
  · exact still

-----------------------------------------------------------------------------------------
-- The native side
-----------------------------------------------------------------------------------------

theorem still_writeMessage {v : Argument} (refused : (s.writeMessage r v).1 = false)
    : Still s (s.writeMessage r v).2 := by
  unfold writeMessage at refused ⊢
  dsimp only at refused ⊢
  split
  · exact .setMessage rfl rfl
  · next calm => simp [calm] at refused

/-- A write that is refused at a position met the failure that waited, and went no further. -/
theorem still_of_taken {next : State → State} (old : q.index < s.cursorCount)
    : (match s.takeCursorFailure q with
        | (true, s) => (false, s)
        | (false, s) => (true, next s) : Bool × State).1 = false
      → Still s
          (match s.takeCursorFailure q with
            | (true, s) => (false, s)
            | (false, s) => (true, next s) : Bool × State).2 := by
  intro refused
  have taken := still_takeCursorFailure old
  rcases takeCursorFailure_cases old with ⟨t, fails⟩ | calm
  · rw [fails] at taken ⊢
    exact taken
  · simp [calm] at refused

theorem still_writeCursor {v : Argument} (old : q.index < s.cursorCount)
    (refused : (s.writeCursor q v).1 = false)
    : Still s (s.writeCursor q v).2 :=
  still_of_taken old refused

/-- Nothing is written where a container is opened, refused or not. -/
theorem still_openAt (old : q.index < s.cursorCount) (code : Char) (contained : String)
    : Still s (s.openAt q code contained).2 := by
  unfold openAt
  split
  · dsimp only
    exact .plan s rfl
  · refine of_failed_or (P := Still s) (still_takeCursorFailure old) fun t failed => ?_
    exact failed.trans (.newBodyCursor t _)

theorem still_closeAt (old : q.index < s.cursorCount) (refused : (s.closeAt q p).1 = false)
    : Still s (s.closeAt q p).2 := by
  unfold closeAt at refused ⊢
  split
  · dsimp only
    exact .plan s rfl
  · next goesOn =>
      rw [if_neg goesOn] at refused
      exact still_of_taken old refused

theorem still_writeBlock {bytes : List UInt8} (old : q.index < s.cursorCount)
    (refused : (s.writeBlock q bytes).1 = false)
    : Still s (s.writeBlock q bytes).2 := by
  unfold writeBlock at refused ⊢
  split
  · dsimp only
    exact .plan s rfl
  · next goesOn =>
      rw [if_neg goesOn] at refused
      exact still_of_taken old refused

/-- A wrapper that reports a refusal leaves what the refused write leaves. -/
theorem still_of_refused {written : Bool × State} {error e : BusError} {event : Event}
    : (written.1 = false → Still s written.2)
      → (match written with
          | (true, s) => (.ok (), s)
          | (false, s) => (.error error, s.note event) : Attempt BusError Unit) = (.error e, t)
      → Still s t := by
  intro went failed
  obtain ⟨_ | _, u⟩ := written
  · obtain ⟨-, rfl⟩ := Prod.mk.inj failed
    exact (went rfl).trans (.note u event)
  · simp at failed

end State

-----------------------------------------------------------------------------------------
-- Wrappers
-----------------------------------------------------------------------------------------

variable {s t : State} {q p : Ref Native.BodyCursor} {r : Ref Native.Message} {e : BusError}

namespace Message

/-- When a value is refused, and why: a NUL in it comes before the failure that waits. -/
theorem answer_append {m : Message} (raw : m.raw = some r) (a : Argument)
    : (m.append a s).1
      = if a.fits = false then .error .interiorNul
        else if (s.message r).failNext then .error (.appendToMessage a.code)
        else .ok () := by
  rw [append, raw, State.live, Attempt.andThen_ok, writeMessage]
  cases a.fits <;> cases (s.message r).failNext <;> rfl

theorem still_append {m : Message} {a : Argument} (failed : m.append a s = (.error e, t))
    : Still s t := by
  cases raw : m.raw with
  | none =>
      rw [append, raw, State.live, Attempt.andThen_error] at failed
      obtain ⟨-, rfl⟩ := Prod.mk.inj failed
      exact .of_sameBus (s.sameBus_raiseNullHandle .bus)
  | some r =>
      rw [append, raw, State.live, Attempt.andThen_ok] at failed
      split at failed
      · obtain ⟨-, rfl⟩ := Prod.mk.inj failed
        exact .refl s
      · exact still_of_refused still_writeMessage failed

end Message

namespace BodyCursor

theorem answer_append (a : Argument)
    : (BodyCursor.append ⟨some q⟩ a s).1
      = if a.fits = false then .error .interiorNul
        else if (s.bodyCursor q).failNext then .error (.appendToCursor a.code)
        else .ok () := by
  rw [append, State.live, Attempt.andThen_ok, writeCursor, takeCursorFailure]
  cases a.fits <;> cases (s.bodyCursor q).failNext <;> rfl

theorem still_append {a : Argument} (old : q.index < s.cursorCount)
    (failed : BodyCursor.append ⟨some q⟩ a s = (.error e, t))
    : Still s t := by
  rw [append, State.live, Attempt.andThen_ok] at failed
  split at failed
  · obtain ⟨-, rfl⟩ := Prod.mk.inj failed
    exact .refl s
  · exact still_of_refused (still_writeCursor old) failed

/-- A container that can be opened is refused by a planned answer, or by the failure that waits. -/
theorem answer_openContainer {k : ArgumentType} {contained : String} (old : q.index < s.cursorCount)
    (container : k.isContainer = true) (fits : ZeroTerminated.fits contained = true)
    : (BodyCursor.openContainer ⟨some q⟩ k (some contained) s).1
      = if s.world.planned.noContainer || (s.bodyCursor q).failNext then
          .error (.containerOpen k.code)
        else .ok ⟨some ⟨s.cursorCount⟩⟩ := by
  rw [openContainer, State.live, Attempt.andThen_ok, container, Option.elim_some, fits, openAt]
  cases refused : s.world.planned.noContainer with
  | true => simp
  | false =>
      rcases takeCursorFailure_cases old with ⟨t, fails⟩ | calm
      · have waits : (s.bodyCursor q).failNext = true := congrArg Prod.fst fails
        simp [fails, waits]
      · have waits : (s.bodyCursor q).failNext = false := congrArg Prod.fst calm
        simp only [calm, waits]
        rfl

/-- Nothing is written where a container is opened, refused or not. -/
theorem still_openContainer (old : q.index < s.cursorCount) (k : ArgumentType)
    (contained : Option String)
    : Still s (BodyCursor.openContainer ⟨some q⟩ k contained s).2 := by
  have went := still_openAt old k.code (contained.getD "")
  rw [openContainer, State.live, Attempt.andThen_ok]
  split
  · exact .refl s
  · split
    · exact .refl s
    · generalize s.openAt q k.code (contained.getD "") = opened at went ⊢
      obtain ⟨_ | inner, u⟩ := opened
      · exact went.trans (.note u _)
      · exact went

theorem answer_closeContainer
    : (BodyCursor.closeContainer ⟨some q⟩ ⟨some p⟩ s).1
      = if s.world.planned.noClose || (s.bodyCursor q).failNext then .error .containerClose
        else .ok () := by
  rw [closeContainer, State.live, Attempt.andThen_ok, State.live, Attempt.andThen_ok, closeAt,
    takeCursorFailure]
  cases s.world.planned.noClose <;> cases (s.bodyCursor q).failNext <;> rfl

theorem still_closeContainer (old : q.index < s.cursorCount)
    (failed : BodyCursor.closeContainer ⟨some q⟩ ⟨some p⟩ s = (.error e, t))
    : Still s t := by
  rw [closeContainer, State.live, Attempt.andThen_ok, State.live, Attempt.andThen_ok] at failed
  exact still_of_refused (still_closeAt old) failed

/-- A block of bytes is refused when there are too many, by a planned answer, or by the failure that
waits.
-/
theorem answer_appendFixed (slice : Slice)
    : (BodyCursor.appendFixed ⟨some q⟩ .byte slice s).1
      = if UInt32.size ≤ slice.length || s.world.planned.noFixedArray || (s.bodyCursor q).failNext
        then .error (.appendToCursor 'y')
        else .ok () := by
  rw [appendFixed, State.live, Attempt.andThen_ok, writeBlock, takeCursorFailure]
  cases decide (UInt32.size ≤ slice.length) <;> cases s.world.planned.noFixedArray
    <;> cases (s.bodyCursor q).failNext <;> rfl

theorem still_appendFixed {k : ArgumentType} {slice : Slice} (old : q.index < s.cursorCount)
    (failed : BodyCursor.appendFixed ⟨some q⟩ k slice s = (.error e, t))
    : Still s t := by
  rw [appendFixed, State.live, Attempt.andThen_ok] at failed
  split at failed
  · obtain ⟨-, rfl⟩ := Prod.mk.inj failed
    exact .refl s
  · exact still_of_refused (still_writeBlock old) failed

end BodyCursor

end Custody
