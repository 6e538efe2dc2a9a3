import Custody.Proofs.RoundTrip.Blobs
import Custody.Proofs.Writing.Lasting
import Custody.Proofs.Writing.Refusals

/-! Where a write through a position arrives. A basic value, and a container that is closed, go to the
message at the top of it and into the container elsewhere. A block of bytes always waits at its position,
which at the top of a message nobody closes: there it is lost.
-/

namespace Custody

open State

/-- A position that was obtained, and where it writes: of a message, at the top; by opening a container at
such a position, inside; and whatever was done since, as long as it was not closed.
-/
inductive State.Obtained : Ref Native.BodyCursor → Site → State → Prop
  | top {m : Message} {r q s t} (raw : m.raw = some r) (made : m.cursor s = (.ok ⟨some q⟩, t))
    : Obtained q (.top r) t
  | inside {p e k contained q s t} (parent : Obtained p e s)
      (opened : BodyCursor.openContainer ⟨some p⟩ k contained s = (.ok ⟨some q⟩, t))
    : Obtained q (.inside q) t
  | later {q e s t} (sofar : Obtained q e s) (went : Meanwhile q s t) : Obtained q e t

/-- A write through a position: of a basic value, of a block of elements, or of a container that was
filled.
-/
inductive WriteAct
  | basic (a : Argument)
  | fixed (k : ArgumentType) (slice : Slice)
  | close (inner : BodyCursor)

namespace WriteAct

def run (act : WriteAct) (c : BodyCursor) (s : State) : Attempt BusError Unit :=
  match act with
  | basic a => c.append a s
  | fixed k slice => c.appendFixed k slice s
  | close inner => c.closeContainer inner s

/-- The value to be written; the only blocks there are consist of bytes. -/
def value (act : WriteAct) (s : State) : Body :=
  match act with
  | basic a => .one a.code a.scalar
  | fixed _ slice => .one 'y' (.bytes slice.bytes)
  | close inner =>
      inner.raw.elim .empty fun p => .box (s.bodyCursor p).code (s.bodyCursor p).items

/-- The write is of a block, and at the top of a message. -/
def misses : WriteAct → Site → Bool
  | fixed .., .top _ => true
  | _, _ => false

/-- The write closes the container that is written at a position. -/
def Closes (q : Ref Native.BodyCursor) : WriteAct → Prop
  | close inner => inner.raw = some q
  | _ => False

end WriteAct

/-- A value that was written through a position is there, last. A new reader of the message finds it at the
end of the body; and whenever the container is closed, it is inside the value that its parent gets, after
what was there and before what was written since.
-/
structure State.Arrives (q : Ref Native.BodyCursor) (e : Site) (value : Body) (s t : State) : Prop where
  last : t.written e = s.written e ++ value
  read
    : ∀ r (m : Message),
        e = .top r
        → m.raw = some r
        → t.world.planned.noCursor = false
        → ∃ c u,
            m.cursor t = (.ok ⟨some c⟩, u)
            ∧ (u.view c).rest = s.written e ++ value
  closed
    : ∀ u p v,
        e = .inside q
        → Meanwhile q t u
        → p.index < u.cursorCount
        → p ≠ q
        → BodyCursor.closeContainer ⟨some p⟩ ⟨some q⟩ u = (.ok (), v)
        → ∃ more,
            v.written (u.site p)
              = u.written (u.site p)
                ++ .box (s.bodyCursor q).code (s.written e ++ value ++ more)

variable {s t : State} {q p : Ref Native.BodyCursor} {e : Site}

-----------------------------------------------------------------------------------------
-- Positions that were obtained
-----------------------------------------------------------------------------------------

/-- A position that was obtained is there, and writes at its site; by induction on how it came about. -/
theorem State.Obtained.place (obtained : Obtained q e s)
    : q.index < s.cursorCount ∧ s.site q = e := by
  induction obtained with
  | top raw made =>
      obtain ⟨same, rfl⟩ := Message.cursor_ok raw made
      cases same
      refine ⟨lt_cursorCount_newBodyCursor _ _, ?_⟩
      rw [site, bodyCursor_newBodyCursor_self]
  | inside _ opened ih =>
      obtain ⟨same, rfl⟩ := BodyCursor.openContainer_ok ih.1 opened
      cases same
      refine ⟨lt_cursorCount_newBodyCursor _ _, ?_⟩
      rw [site, bodyCursor_newBodyCursor_self]
  | later _ went ih =>
      have lasts := went.lasts ih.1
      exact ⟨Nat.lt_of_lt_of_le ih.1 lasts.count, (lasts.site ih.1).trans ih.2⟩

-----------------------------------------------------------------------------------------
-- One write
-----------------------------------------------------------------------------------------

theorem State.written_push (s : State) (q : Ref Native.BodyCursor) (values : Body) (text : String)
    : (s.push q values text).written (s.site q) = s.written (s.site q) ++ values := by
  unfold push State.site
  cases (s.bodyCursor q).target with
  | none => exact congrArg Native.BodyCursor.items (bodyCursor_setBodyCursor_self s q _)
  | some m => exact congrArg Native.Message.body (Heap.get_put_self _ m _)

/-- A container that is closed is the last value where its parent writes. -/
theorem BodyCursor.written_closeContainer (old : q.index < s.cursorCount) (apart : q ≠ p)
    (closed : BodyCursor.closeContainer ⟨some q⟩ ⟨some p⟩ s = (.ok (), t))
    : t.written (s.site q)
      = s.written (s.site q) ++ .box (s.bodyCursor p).code (s.bodyCursor p).items := by
  have kept := bodyCursor_setBodyCursor_of_ne s { s.bodyCursor p with items := .empty } apart
  have site : (s.setBodyCursor p { s.bodyCursor p with items := .empty }).site q = s.site q :=
    site_congr (congrArg Native.BodyCursor.target kept)
  have pushed := written_push (s.setBodyCursor p { s.bodyCursor p with items := .empty }) q
    (.box (s.bodyCursor p).code (s.bodyCursor p).items) (s.bodyCursor p).closedSignature
  rw [closeContainer_ok old closed, ← site, pushed, site]
  congr 1
  unfold State.site
  cases (s.bodyCursor q).target with
  | none => exact congrArg Native.BodyCursor.items kept
  | some m => rfl

namespace WriteAct

variable {act : WriteAct} {error : BusError}

/-- A write that is refused leaves everything as it was. -/
theorem still_run (old : q.index < s.cursorCount) (failed : act.run ⟨some q⟩ s = (.error error, t))
    : Still s t := by
  cases act with
  | basic a => exact BodyCursor.still_append old failed
  | fixed k slice => exact BodyCursor.still_appendFixed old failed
  | close inner =>
      obtain ⟨raw⟩ := inner
      cases raw with
      | some p => exact BodyCursor.still_closeContainer old failed
      | none =>
          obtain ⟨-, rfl⟩ := Prod.mk.inj failed
          exact .of_sameBus (s.sameBus_raiseNullHandle .bus)

/-- A write lets its own position last. -/
theorem lasts_run (act : WriteAct) (c : BodyCursor) (s : State) (opened : ¬ act.Closes q)
    : Lasts q s (act.run c s).2 := by
  cases act with
  | basic a => exact c.lasts_append a s
  | fixed k slice => exact c.lasts_appendFixed k slice s
  | close inner => exact c.lasts_closeContainer s opened

/-- A write that is not refused adds one value. -/
theorem length_value (done : act.run ⟨some q⟩ s = (.ok (), t))
    : (act.value s).length = 1 := by
  cases act with
  | basic a => rfl
  | fixed k slice => rfl
  | close inner =>
      obtain ⟨raw⟩ := inner
      cases raw with
      | some p => rfl
      | none => cases (Prod.mk.inj done).1

/-- The value is written last where the position writes, but for a block at the top of a message. -/
theorem written_run (old : q.index < s.cursorCount) (opened : ¬ act.Closes q)
    (done : act.run ⟨some q⟩ s = (.ok (), t)) (hits : act.misses (s.site q) = false)
    : t.written (s.site q) = s.written (s.site q) ++ act.value s := by
  cases act with
  | basic a => exact (BodyCursor.append_ok old done).2.written
  | fixed k slice =>
      have inside : s.site q = .inside q := by
        unfold State.site at hits ⊢
        cases target : (s.bodyCursor q).target with
        | none => rfl
        | some m => simp [target, misses] at hits
      rw [inside]
      exact (BodyCursor.appendFixed_ok old done).written
  | close inner =>
      obtain ⟨raw⟩ := inner
      cases raw with
      | none => cases (Prod.mk.inj done).1
      | some p =>
          have apart : q ≠ p := fun same => opened (congrArg some same.symm)
          exact BodyCursor.written_closeContainer old apart done

/-- A block at the top of a message is not written there. -/
theorem unwritten_run {r : Ref Native.Message} (old : q.index < s.cursorCount)
    (done : act.run ⟨some q⟩ s = (.ok (), t)) (misses : act.misses (.top r) = true)
    : t.message r = s.message r := by
  cases act with
  | basic a => cases misses
  | close inner => cases misses
  | fixed k slice =>
      rw [BodyCursor.appendFixed_eq old done]
      rfl

end WriteAct

-----------------------------------------------------------------------------------------
-- What becomes of it
-----------------------------------------------------------------------------------------

/-- A new reader of a message has all of its values before it. -/
theorem Message.cursor_view {m : Message} {r : Ref Native.Message} (raw : m.raw = some r)
    (given : s.world.planned.noCursor = false)
    : ∃ c t, m.cursor s = (.ok ⟨some c⟩, t) ∧ (t.view c).rest = (s.message r).body := by
  refine ⟨⟨s.cursorCount⟩,
    (s.newBodyCursor { target := some r, rest := (s.message r).body }).2, cursor_given given raw, ?_⟩
  rw [State.view, bodyCursor_newBodyCursor_self]
  rfl

/-- What was in a container before other things were done is in the value that its closing adds. -/
theorem State.Meanwhile.written_close {u v : State} (went : Meanwhile q t u)
    (old : q.index < t.cursorCount) (parent : p.index < u.cursorCount) (apart : p ≠ q)
    (closed : BodyCursor.closeContainer ⟨some p⟩ ⟨some q⟩ u = (.ok (), v))
    : ∃ more,
        v.written (u.site p)
          = u.written (u.site p) ++ .box (t.bodyCursor q).code (t.written (.inside q) ++ more) := by
  have lasts := went.lasts old
  obtain ⟨more, grown⟩ := lasts.items old
  refine ⟨more, ?_⟩
  rw [BodyCursor.written_closeContainer parent apart closed, lasts.code old, grown]
  rfl

/-- A value that is there, last, arrives. -/
theorem State.arrives_of_last {value : Body} (lasts : Lasts q s t) (old : q.index < s.cursorCount)
    (last : t.written e = s.written e ++ value)
    : Arrives q e value s t where
  last := last
  read r m top raw given := by
    obtain ⟨c, u, made, shows⟩ := Message.cursor_view raw given
    refine ⟨c, u, made, ?_⟩
    rw [shows, ← last, top]
    rfl
  closed u p v inside went parent apart closed := by
    obtain ⟨more, written⟩ :=
      went.written_close (Nat.lt_of_lt_of_le old lasts.count) parent apart closed
    refine ⟨more, ?_⟩
    rw [written, lasts.code old, ← inside, last]

/-- Whatever was done since a position was obtained, a write through it that is refused leaves all values
and signatures as they were; and one that succeeds arrives, last, unless it is of a block at the top of a
message. Then the message is as it was.
-/
theorem write_arrives_iff {act : WriteAct} {answer : Except BusError Unit}
    (obtained : Obtained q e s) (opened : ¬ act.Closes q)
    (went : act.run ⟨some q⟩ s = (answer, t))
    : (∀ error, answer = .error error → Still s t)
      ∧ (answer = .ok ()
        → (Arrives q e (act.value s) s t ↔ act.misses e = false)
          ∧ (act.misses e = true → t.written e = s.written e ∧ t.signed e = s.signed e)) := by
  obtain ⟨old, rfl⟩ := obtained.place
  refine ⟨?_, ?_⟩
  · rintro error rfl
    exact WriteAct.still_run old went
  · rintro rfl
    have lasts := act.lasts_run ⟨some q⟩ s opened
    rw [went] at lasts
    cases misses : act.misses (s.site q) with
    | false =>
        have last := WriteAct.written_run old opened went misses
        exact ⟨iff_of_true (arrives_of_last lasts old last) rfl, nofun⟩
    | true =>
        obtain ⟨r, top⟩ : ∃ r, s.site q = .top r := by
          cases here : s.site q with
          | top r => exact ⟨r, rfl⟩
          | inside p => rw [here] at misses; cases act <;> cases misses
        rw [top] at misses ⊢
        have same := WriteAct.unwritten_run old went misses
        have written : t.written (.top r) = s.written (.top r) := congrArg Native.Message.body same
        have signed : t.signed (.top r) = s.signed (.top r) :=
          congrArg Native.Message.signature same
        refine ⟨iff_of_false ?_ Bool.noConfusion, fun _ => ⟨written, signed⟩⟩
        intro arrives
        have longer := congrArg Body.length (written.symm.trans arrives.last)
        rw [Body.length_append, WriteAct.length_value went] at longer
        omega

/-- A world in which a position at the top of a message was just obtained. -/
def blobObtained : State :=
  (blobMessage.cursor blobState).2

theorem blobObtained_obtained
    : Obtained ⟨1⟩ (.top ⟨0⟩) blobObtained :=
  .top (m := blobMessage) rfl (show blobMessage.cursor blobState = _ from rfl)

/-- Two bytes are appended there in one piece, and the message does not get them. -/
theorem blobObtained_block_lost
    : ¬ (WriteAct.fixed .byte (.memory [1, 2])).Closes ⟨1⟩
      ∧ ∃ t,
          BodyCursor.appendFixed ⟨some ⟨1⟩⟩ .byte (.memory [1, 2]) blobObtained = (.ok (), t)
          ∧ (t.message ⟨0⟩).body = (blobObtained.message ⟨0⟩).body
          ∧ ¬ Arrives ⟨1⟩ (.top ⟨0⟩) (.one 'y' (.bytes [1, 2])) blobObtained t := by
  have opened : ¬ (WriteAct.fixed .byte (.memory [1, 2])).Closes ⟨1⟩ := id
  obtain ⟨t, went⟩ : ∃ t,
      (WriteAct.fixed .byte (.memory [1, 2])).run ⟨some ⟨1⟩⟩ blobObtained = (.ok (), t) :=
    ⟨_, Prod.ext rfl rfl⟩
  obtain ⟨-, lost⟩ := write_arrives_iff blobObtained_obtained opened went
  obtain ⟨arrives, same⟩ := lost rfl
  exact ⟨opened, t, went, (same rfl).1, fun arrived => Bool.noConfusion (arrives.1 arrived)⟩

/-- So not every write that succeeds is there. -/
theorem blobObtained_misses_write
    : ¬ ∀ (q : Ref Native.BodyCursor) (e : Site) (s t : State) (act : WriteAct),
        Obtained q e s
        → ¬ act.Closes q
        → act.run ⟨some q⟩ s = (.ok (), t)
        → t.written e = s.written e ++ act.value s := by
  intro always
  obtain ⟨t, went⟩ : ∃ t,
      (WriteAct.fixed .byte (.memory [1, 2])).run ⟨some ⟨1⟩⟩ blobObtained = (.ok (), t) :=
    ⟨_, Prod.ext rfl rfl⟩
  have last := always _ _ _ _ _ blobObtained_obtained id went
  have same : t.message ⟨0⟩ = blobObtained.message ⟨0⟩ :=
    WriteAct.unwritten_run (blobObtained_obtained.place).1 went rfl
  have body : t.written (.top ⟨0⟩) = blobObtained.written (.top ⟨0⟩) :=
    congrArg Native.Message.body same
  have longer := congrArg Body.length (body.symm.trans last)
  rw [Body.length_append] at longer
  exact absurd longer (Nat.ne_of_lt (Nat.lt_succ_self _))

end Custody
