import Custody.Proofs.Hosting.Host
import Custody.Proofs.Writing.Sites

/-! A container lasts until it is closed: whatever is done in the meantime, its position writes where it
wrote, and what waits there stays and can only grow at the end. So it is with a position at the top of a
message.
-/

namespace Custody

open State

/-- Something that was done to the second state from the first left alone where a position writes and what
it was opened as, and at most added to the end of what waits there.
-/
structure State.Lasts (q : Ref Native.BodyCursor) (s t : State) : Prop where
  count : s.cursorCount ≤ t.cursorCount
  target : q.index < s.cursorCount → (t.bodyCursor q).target = (s.bodyCursor q).target
  code : q.index < s.cursorCount → (t.bodyCursor q).code = (s.bodyCursor q).code
  items
    : q.index < s.cursorCount
      → ∃ more, (t.bodyCursor q).items = (s.bodyCursor q).items ++ more

/-- The use closes the container that is written at a position. -/
def Use.Closes (q : Ref Native.BodyCursor) : Use → Prop
  | .closeContainer _ inner => inner.raw = some q
  | _ => False

/-- Uses of wrappers and calls that need none, while a position is not closed. What is done elsewhere
leaves every position alone.
-/
inductive State.Meanwhile (q : Ref Native.BodyCursor) (s : State) : State → Prop
  | start : Meanwhile q s s
  | use {t} (sofar : Meanwhile q s t) (u : Use) (opened : ¬ u.Closes q) : Meanwhile q s (u.run t).2
  | serve {t} (sofar : Meanwhile q s t) (v : Service) : Meanwhile q s (v.run t)
  | elsewhere {t u} (sofar : Meanwhile q s t)
      (same : u.world.bodyCursors = t.world.bodyCursors)
    : Meanwhile q s u

variable {s t u : State} {q p : Ref Native.BodyCursor}

namespace State

-----------------------------------------------------------------------------------------
-- Single changes
-----------------------------------------------------------------------------------------

theorem Lasts.of_same (same : t.world.bodyCursors = s.world.bodyCursors)
    : Lasts q s t := by
  have position : t.bodyCursor q = s.bodyCursor q := congrArg (Heap.get · q) same
  refine ⟨Nat.le_of_eq (congrArg Heap.size same).symm, ?_, ?_, ?_⟩
  · exact fun _ => by rw [position]
  · exact fun _ => by rw [position]
  · exact fun _ => ⟨.empty, by rw [position, Body.append_empty]⟩

theorem Lasts.refl (q : Ref Native.BodyCursor) (s : State)
    : Lasts q s s :=
  .of_same rfl

theorem Lasts.trans (first : Lasts q s t) (second : Lasts q t u)
    : Lasts q s u := by
  have later (old : q.index < s.cursorCount) : q.index < t.cursorCount :=
    Nat.lt_of_lt_of_le old first.count
  refine ⟨Nat.le_trans first.count second.count, ?_, ?_, ?_⟩
  · exact fun old => (second.target (later old)).trans (first.target old)
  · exact fun old => (second.code (later old)).trans (first.code old)
  · intro old
    obtain ⟨a, grown⟩ := first.items old
    obtain ⟨b, grownMore⟩ := second.items (later old)
    exact ⟨a ++ b, by rw [grownMore, grown, Body.append_assoc]⟩

/-- A position that is not closed writes where it wrote. -/
theorem Lasts.site (lasts : Lasts q s t) (old : q.index < s.cursorCount)
    : t.site q = s.site q :=
  site_congr (lasts.target old)

theorem Lasts.newBodyCursor (s : State) (c : Native.BodyCursor)
    : Lasts q s (s.newBodyCursor c).2 := by
  refine ⟨Nat.le_of_lt (s.lt_cursorCount_newBodyCursor c), ?_, ?_, ?_⟩
  · exact fun old => by rw [s.bodyCursor_newBodyCursor_of_old c old]
  · exact fun old => by rw [s.bodyCursor_newBodyCursor_of_old c old]
  · exact fun old => ⟨.empty, by rw [s.bodyCursor_newBodyCursor_of_old c old, Body.append_empty]⟩

/-- What waits at a position may grow, and what it has to read may change. -/
theorem Lasts.setBodyCursor {c : Native.BodyCursor} (target : c.target = (s.bodyCursor p).target)
    (code : c.code = (s.bodyCursor p).code)
    (items : ∃ more, c.items = (s.bodyCursor p).items ++ more)
    : Lasts q s (s.setBodyCursor p c) := by
  refine ⟨Heap.size_le_put _ p c, fun _ => Heap.keeps_put _ target q,
    fun _ => Heap.keeps_put _ code q, fun _ => ?_⟩
  by_cases here : q = p
  · obtain ⟨more, grown⟩ := items
    exact ⟨more, by rw [here, bodyCursor_setBodyCursor_self, grown]⟩
  · exact ⟨.empty, by rw [bodyCursor_setBodyCursor_of_ne s c here, Body.append_empty]⟩

/-- Another position may change altogether. -/
theorem Lasts.setOther (s : State) (c : Native.BodyCursor) (apart : q ≠ p)
    : Lasts q s (s.setBodyCursor p c) := by
  have position := bodyCursor_setBodyCursor_of_ne s c apart
  refine ⟨Heap.size_le_put _ p c, ?_, ?_, ?_⟩
  · exact fun _ => by rw [position]
  · exact fun _ => by rw [position]
  · exact fun _ => ⟨.empty, by rw [position, Body.append_empty]⟩

-----------------------------------------------------------------------------------------
-- The native side
-----------------------------------------------------------------------------------------

theorem lasts_moveTo (s : State) (p : Ref Native.BodyCursor) (rest : Body)
    : Lasts q s (s.moveTo p rest) :=
  .setBodyCursor rfl rfl ⟨.empty, (Body.append_empty _).symm⟩

theorem lasts_takeCursorFailure (s : State) (p : Ref Native.BodyCursor)
    : Lasts q s (s.takeCursorFailure p).2 :=
  .setBodyCursor rfl rfl ⟨.empty, (Body.append_empty _).symm⟩

theorem lasts_push (s : State) (p : Ref Native.BodyCursor) (values : Body) (text : String)
    : Lasts q s (s.push p values text) := by
  unfold push
  split
  · exact .of_same rfl
  · exact .setBodyCursor rfl rfl ⟨values, rfl⟩

theorem lasts_makeBodyCursor (s : State) (r : Ref Native.Message)
    : Lasts q s (s.makeBodyCursor r).2 := by
  unfold makeBodyCursor
  split
  · exact .of_same rfl
  · exact .newBodyCursor s _

theorem lasts_writeCursor (s : State) (p : Ref Native.BodyCursor) (a : Argument)
    : Lasts q s (s.writeCursor p a).2 := by
  refine of_failed_or (P := Lasts q s) (s.lasts_takeCursorFailure p) fun t failed => ?_
  exact failed.trans (t.lasts_push p _ _)

theorem lasts_openAt (s : State) (p : Ref Native.BodyCursor) (code : Char) (contained : String)
    : Lasts q s (s.openAt p code contained).2 := by
  unfold openAt
  split
  · exact .of_same rfl
  · refine of_failed_or (P := Lasts q s) (s.lasts_takeCursorFailure p) fun t failed => ?_
    exact failed.trans (.newBodyCursor t _)

/-- Closing takes the values out of the container that is closed, and of no other. -/
theorem lasts_closeAt (s : State) (p : Ref Native.BodyCursor) {inner : Ref Native.BodyCursor}
    (apart : q ≠ inner)
    : Lasts q s (s.closeAt p inner).2 := by
  unfold closeAt
  split
  · exact .of_same rfl
  · refine of_failed_or (P := Lasts q s) (s.lasts_takeCursorFailure p) fun t failed => ?_
    exact (failed.trans (.setOther t _ apart)).trans (lasts_push _ p _ _)

theorem lasts_writeBlock (s : State) (p : Ref Native.BodyCursor) (bytes : List UInt8)
    : Lasts q s (s.writeBlock p bytes).2 := by
  unfold writeBlock
  split
  · exact .of_same rfl
  · refine of_failed_or (P := Lasts q s) (s.lasts_takeCursorFailure p) fun t failed => ?_
    exact failed.trans (.setBodyCursor rfl rfl ⟨_, rfl⟩)

theorem lasts_restSignature (s : State) (p : Ref Native.BodyCursor)
    : Lasts q s (s.restSignature p).2 := by
  unfold restSignature
  split <;> exact .of_same rfl

/-- A read moves a position over what it has to read, or makes another. -/
theorem lasts_readSlot (s : State) (p : Ref Native.BodyCursor) (code : Char)
    : Lasts q s (s.readSlot p code).2 := by
  have enters (rest : Body) (c : Native.BodyCursor) : Lasts q s ((s.moveTo p rest).enter c).2 :=
    (s.lasts_moveTo p rest).trans (.newBodyCursor _ c)
  unfold readSlot
  split
  · exact .of_same rfl
  · split
    · exact .refl q s
    · split
      · exact .refl q s
      · split
        · exact enters _ _
        · exact s.lasts_moveTo p _
    · split
      · exact .refl q s
      · split
        · exact enters _ _
        · exact s.lasts_moveTo p _

theorem lasts_readBlock (s : State) (p : Ref Native.BodyCursor)
    : Lasts q s (s.readBlock p).2 := by
  unfold readBlock
  split <;> exact .of_same rfl

theorem lasts_live {α : Type} (s : State) (raw : Option (Ref α))
    : Lasts q s (s.live raw).2 := by
  cases raw with
  | none => exact .of_same (s.sameBus_raiseNullHandle .bus).bodyCursors
  | some r => exact .refl q s

/-- An attempt that goes on lets a position last if both parts do. -/
theorem Lasts.andThen {ε α β : Type} {a : Attempt ε α} {next : α → State → Attempt ε β}
    (first : Lasts q s a.2) (second : ∀ x t, Lasts q t (next x t).2)
    : Lasts q s (a.andThen next).2 := by
  obtain ⟨e | x, t⟩ := a
  · exact first
  · exact first.trans (second x t)

end State

-----------------------------------------------------------------------------------------
-- Uses of positions
-----------------------------------------------------------------------------------------

namespace BodyCursor

theorem lasts_append (c : BodyCursor) (a : Argument) (s : State)
    : Lasts q s (c.append a s).2 := by
  refine (s.lasts_live c.raw).andThen fun r t => ?_
  split
  · exact .refl q t
  · exact of_written_or (t.lasts_writeCursor r a) fun u went => went.trans (.of_same rfl)

theorem lasts_openContainer (c : BodyCursor) (k : ArgumentType) (contained : Option String)
    (s : State)
    : Lasts q s (c.openContainer k contained s).2 := by
  refine (s.lasts_live c.raw).andThen fun r t => ?_
  have went := t.lasts_openAt (q := q) r k.code (contained.getD "")
  split
  · exact .refl q t
  · split
    · exact .refl q t
    · generalize t.openAt r k.code (contained.getD "") = opened at went ⊢
      obtain ⟨_ | inner, u⟩ := opened
      · exact went.trans (.of_same rfl)
      · exact went

theorem lasts_closeContainer (c : BodyCursor) {inner : BodyCursor} (s : State)
    (opened : inner.raw ≠ some q)
    : Lasts q s (c.closeContainer inner s).2 := by
  refine (s.lasts_live c.raw).andThen fun r t => ?_
  obtain ⟨raw⟩ := inner
  cases raw with
  | none => exact t.lasts_live (none : Option (Ref Native.BodyCursor))
  | some p =>
      rw [State.live, Attempt.andThen_ok]
      have apart : q ≠ p := fun same => opened (congrArg some same.symm)
      exact of_written_or (t.lasts_closeAt r apart) fun u went => went.trans (.of_same rfl)

theorem lasts_appendFixed (c : BodyCursor) (k : ArgumentType) (slice : Slice) (s : State)
    : Lasts q s (c.appendFixed k slice s).2 := by
  refine (s.lasts_live c.raw).andThen fun r t => ?_
  split
  · exact .refl q t
  · exact of_written_or (t.lasts_writeBlock r slice.bytes) fun u went => went.trans (.of_same rfl)

/-- The position of a container that is opened is none of those there are. -/
theorem raw_of_openContainer {c inner : BodyCursor} {k : ArgumentType} {contained : Option String}
    (old : q.index < s.cursorCount) (opened : c.openContainer k contained s = (.ok inner, t))
    : inner.raw ≠ some q := by
  obtain ⟨raw⟩ := c
  cases raw with
  | none => simp [openContainer, State.live] at opened
  | some r =>
      have count := (s.lasts_takeCursorFailure (q := q) r).count
      rw [openContainer, State.live, Attempt.andThen_ok, openAt] at opened
      split at opened
      · simp at opened
      · split at opened
        · simp at opened
        · cases refused : s.world.planned.noContainer with
          | true => simp [refused] at opened
          | false =>
              generalize s.takeCursorFailure r = taken at count opened
              obtain ⟨_ | _, u⟩ := taken
              · simp only [refused, Bool.false_eq_true, if_false, Prod.mk.injEq,
                  Except.ok.injEq] at opened
                rw [← opened.1]
                rintro ⟨⟩
                exact Nat.lt_irrefl _ (Nat.lt_of_lt_of_le old count)
              · simp [refused] at opened

/-- The array that is opened for a buffer is closed, and no other. -/
theorem lasts_appendBuffer (c : BodyCursor) (b : Buffer) (old : q.index < s.cursorCount)
    : Lasts q s (c.appendBuffer b s).2 := by
  have went := c.lasts_openContainer (q := q) .array (some "y") s
  unfold appendBuffer
  cases opened : c.openContainer .array (some "y") s with
  | mk answer t =>
      rw [opened] at went
      cases answer with
      | error e => exact went
      | ok inner =>
          have apart := raw_of_openContainer old opened
          have shown : Lasts q t (b.slice t).2 := .of_same (b.sameBus_slice t).bodyCursors
          have filled := shown.trans (inner.lasts_appendFixed .byte (b.slice t).1 (b.slice t).2)
          exact went.trans (filled.trans (c.lasts_closeContainer _ apart))

theorem lasts_signature (c : BodyCursor) (s : State)
    : Lasts q s (c.signature s).2 := by
  unfold signature
  split
  · exact .of_same (s.sameBus_raiseNullHandle .bus).bodyCursors
  · exact s.lasts_restSignature _

theorem lasts_read (c : BodyCursor) (s : State)
    : Lasts q s (c.read s).2 := by
  refine (s.lasts_live c.raw).andThen fun r t => ?_
  have told : Lasts q t (c.currentType t).2 := c.lasts_signature t
  generalize c.currentType t = shown at told ⊢
  obtain ⟨_ | k, u⟩ := shown
  · exact told
  · dsimp only
    split
    · exact told
    · have went := told.trans (u.lasts_readSlot r k.code)
      split <;> exact went

theorem lasts_readArray (c : BodyCursor) (s : State)
    : Lasts q s (c.readArray s).2 := by
  refine (s.lasts_live c.raw).andThen fun r t => ?_
  have went := t.lasts_readSlot (q := q) r ArgumentType.array.code
  split
  · next entered =>
      rw [entered] at went
      exact went
  · next refused =>
      rw [refused] at went
      exact went

/-- What is copied goes to a buffer. -/
theorem lasts_readBytes (c : BodyCursor) (s : State)
    : Lasts q s (c.readBytes s).2 := by
  refine (s.lasts_live c.raw).andThen fun r t => ?_
  have went := t.lasts_readBlock (q := q) r
  generalize t.readBlock r = block at went ⊢
  obtain ⟨_ | ⟨count, bytes⟩, u⟩ := block
  · exact went
  · dsimp only
    split
    · exact went
    · have made := Buffer.sameBus_ofBytes ((bytes.getD []).take count.toNat) u
      generalize Buffer.ofBytes ((bytes.getD []).take count.toNat) u = filled at made ⊢
      obtain ⟨e | b, v⟩ := filled
      · exact went.trans (.of_same made.bodyCursors)
      · exact went.trans (.of_same made.bodyCursors)

end BodyCursor

-----------------------------------------------------------------------------------------
-- Uses of anything else
-----------------------------------------------------------------------------------------

theorem Handle.lasts_use {α β : Type} [Freeable α] (h : Handle α) (realm : Realm) (fallback : β)
    {act : Ref α → State → β × State} (acts : ∀ r, Lasts q s (act r s).2)
    : Lasts q s (h.use realm fallback act s).2 := by
  unfold use
  split
  · exact acts _
  · exact .of_same (s.sameBus_raiseNullHandle realm).bodyCursors

/-- An edit of a buffer; those at the end and those by a slice are writes at some place. -/
theorem Edit.lasts_run (e : Edit Buffer) (b : Buffer) (s : State)
    : Lasts q s (e.run b s).2 := by
  have writes (r : Ref Native.Buffer) (bytes : List UInt8) (pos : Nat)
      : Lasts q s (s.writeAt r bytes pos).2 := .of_same (s.sameBus_writeAt r bytes pos).bodyCursors
  cases e with
  | append | appendLen | insert | insertLen =>
      refine b.lasts_use .data false fun r => ?_
      split
      · exact .of_same rfl
      · exact writes r _ _
  | appendByte | appendSlice | insertByte | insertSlice =>
      exact b.lasts_use .data false fun r => writes r _ _
  | appendBuffer source =>
      exact b.lasts_use .data false fun r => source.lasts_use .data false fun _ => writes r _ _
  | remove =>
      refine b.lasts_use .data false fun r => ?_
      unfold cut
      dsimp only
      split <;> exact .of_same rfl

namespace Message

theorem lasts_cursor (m : Message) (s : State)
    : Lasts q s (m.cursor s).2 := by
  refine (s.lasts_live m.raw).andThen fun r t => ?_
  have made : Lasts q t ((t.makeBodyCursor r).2.live (t.makeBodyCursor r).1).2 :=
    (t.lasts_makeBodyCursor r).trans (lasts_live _ _)
  exact made.andThen fun c u => .refl q u

theorem lasts_signature (m : Message) (s : State)
    : Lasts q s (m.signature s).2 := by
  refine (s.lasts_live m.raw).andThen fun r t => ?_
  have told : Lasts q t (t.messageSignature r).2 := by
    unfold messageSignature
    split <;> exact .of_same rfl
  exact told

theorem lasts_fault (m : Message) (s : State)
    : Lasts q s (m.fault s).2 := by
  refine (s.lasts_live m.raw).andThen fun r t => ?_
  have told : Lasts q t (t.messageFault r).2 := by
    unfold messageFault
    split <;> exact .of_same rfl
  exact told

theorem lasts_append (m : Message) (a : Argument) (s : State)
    : Lasts q s (m.append a s).2 := by
  refine (s.lasts_live m.raw).andThen fun r t => ?_
  split
  · exact .refl q t
  · have went : Lasts q t (t.writeMessage r a).2 := by
      unfold writeMessage
      dsimp only
      split <;> exact .of_same rfl
    exact of_written_or went fun u went => went.trans (.of_same rfl)

/-- By induction on the values. -/
theorem lasts_appendAll (m : Message) (values : List Argument) (s : State)
    : Lasts q s (m.appendAll values s).2 := by
  induction values generalizing s with
  | nil => exact .refl q s
  | cons a rest ih => exact (m.lasts_append a s).andThen fun _ t => ih t

end Message

/-- One case for each use. -/
theorem Use.lasts_run (u : Use) (old : q.index < s.cursorCount) (opened : ¬ u.Closes q)
    : Lasts q s (u.run s).2 := by
  cases u with
  | edit b e => exact e.lasts_run b s
  | reset b | freeContents b => exact b.lasts_use .data () fun r => .of_same rfl
  | toBytes b => exact b.lasts_use .data none fun r => .refl q s
  | length b | isEmpty b => exact b.lasts_use .data (0 : Nat) fun r => .refl q s
  | slice b => exact .of_same (b.sameBus_slice s).bodyCursors
  | lock c | unlock c => exact c.handle.lasts_use .data false fun r => .of_same rfl
  | container c => exact c.handle.lasts_use .data none fun r => .refl q s
  | newRef m => exact (s.lasts_live m.raw).andThen fun r t => .of_same rfl
  | signature m => exact m.lasts_signature s
  | fault m => exact m.lasts_fault s
  | cursor m => exact m.lasts_cursor s
  | append m a => exact m.lasts_append a s
  | appendAll m values => exact m.lasts_appendAll values s
  | write c a => exact c.lasts_append a s
  | openContainer c k contained => exact c.lasts_openContainer k contained s
  | closeContainer c inner => exact c.lasts_closeContainer s opened
  | appendFixed c k slice => exact c.lasts_appendFixed k slice s
  | appendBuffer c b => exact c.lasts_appendBuffer b old
  | restSignature c | currentType c => exact c.lasts_signature s
  | read c => exact c.lasts_read s
  | readArray c => exact c.lasts_readArray s
  | readBytes c => exact c.lasts_readBytes s
  | method p =>
      refine (s.lasts_live p.raw).andThen fun r t => ?_
      split <;> exact .of_same rfl
  | cancel p => exact (s.lasts_live p.raw).andThen fun r t => .of_same rfl

/-- A free that is run or queued leaves every position alone. -/
theorem State.bodyCursors_schedule (s : State) (h : NativeHandle)
    : (s.schedule h).world.bodyCursors = s.world.bodyCursors := by
  unfold schedule
  split
  · cases h <;> rfl
  · unfold enqueue
    dsimp only
    split <;> rfl

/-- One case for each service. -/
theorem Service.lasts_run (v : Service) (s : State)
    : Lasts q s (v.run s) := by
  cases v with
  | schedule h =>
      cases h with
      | none => exact .refl q s
      | some h => exact .of_same (s.bodyCursors_schedule h)
  | kindNumber kind => exact .of_same (s.sameBus_kindNumber kind).bodyCursors
  | raiseKind kind => exact .of_same (s.sameBus_kindNumber kind).bodyCursors
  | failNextWriteAt r => exact .setBodyCursor rfl rfl ⟨.empty, (Body.append_empty _).symm⟩
  | _ => exact .of_same rfl

/-- Whatever is done in the meantime, a position lasts; by induction on what is done. -/
theorem State.Meanwhile.lasts (went : Meanwhile q s t) (old : q.index < s.cursorCount)
    : Lasts q s t := by
  induction went with
  | start => exact .refl q s
  | use _ u opened ih => exact ih.trans (u.lasts_run (Nat.lt_of_lt_of_le old ih.count) opened)
  | serve _ v ih => exact ih.trans (v.lasts_run _)
  | elsewhere _ same ih => exact ih.trans (.of_same same)

end Custody
