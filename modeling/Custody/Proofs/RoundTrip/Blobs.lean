import Custody.Proofs.Buffers.Making
import Custody.Proofs.Reading.Passing
import Custody.Proofs.Reading.Views
import Custody.Proofs.Writing.Containers

/-! Blocks of bytes in a message. A block is written as an array with one value inside, the block
itself under the letter of a byte; a read looks for the block in the place of the array. So what is
read back is a buffer, and it is empty.
-/

namespace Custody

open State

/-- Writing a block of bytes at a position: in one call, from a buffer that holds the bytes, or as
an array of bytes that is opened, given them in one piece, and closed.
-/
inductive BlobWritten (c : BodyCursor) (bytes : List UInt8) : State → State → Prop
  | buffer {b : Buffer} {k s t} (live : b.raw = some k) (holds : (s.buffer k).bytes = bytes)
      (done : c.appendBuffer b s = (.ok (), t))
    : BlobWritten c bytes s t
  | array {inner slice s t u v} (shows : Slice.bytes slice = bytes)
      (opened : c.openContainer .array (some "y") s = (.ok inner, t))
      (filled : inner.appendFixed .byte slice t = (.ok (), u))
      (closed : c.closeContainer inner u = (.ok (), v))
    : BlobWritten c bytes s v

/-- Reads the block of bytes that comes after `n` values. -/
def BodyCursor.readBlob (c : BodyCursor) (n : Nat) (s : State) : Attempt BusError Buffer :=
  (c.passMany n s).andThen fun _ s =>
    (c.readArray s).andThen fun inner s => inner.readBytes s

variable {s t : State} {q r : Ref Native.BodyCursor} {bytes : List UInt8}

/-- One call from a buffer is the three calls, with the bytes that the buffer holds. -/
theorem BodyCursor.appendBuffer_ok {c : BodyCursor} {b : Buffer} {k : Ref Native.Buffer}
    (live : b.raw = some k) (done : c.appendBuffer b s = (.ok (), t))
    : ∃ inner u v,
        c.openContainer .array (some "y") s = (.ok inner, u)
        ∧ inner.appendFixed .byte (.memory (u.buffer k).bytes) u = (.ok (), v)
        ∧ c.closeContainer inner v = (.ok (), t) := by
  unfold appendBuffer at done
  cases opened : c.openContainer .array (some "y") s with
  | mk answer u =>
      cases answer with
      | error e => simp [opened] at done
      | ok inner =>
          have slice : b.slice u = (.memory (u.buffer k).bytes, u) := by
            simp [Buffer.slice, Handle.use, live]
          simp only [opened, Attempt.andThen_ok, slice] at done
          cases filled : inner.appendFixed .byte (.memory (u.buffer k).bytes) u with
          | mk appended v =>
              cases appended with
              | error e => simp [filled, Except.bind] at done
              | ok _ =>
                  simp only [filled] at done
                  exact ⟨inner, u, v, rfl, filled, done⟩

theorem wrote_blob (old : q.index < s.cursorCount) (written : BlobWritten ⟨some q⟩ bytes s t)
    : Wrote (s.site q) (.box 'a' (.one 'y' (.bytes bytes))) s t := by
  have array {inner : BodyCursor} {slice : Slice} {u v : State}
      (opened : BodyCursor.openContainer ⟨some q⟩ .array (some "y") s = (.ok inner, u))
      (filled : inner.appendFixed .byte slice u = (.ok (), v))
      (closed : BodyCursor.closeContainer ⟨some q⟩ inner v = (.ok (), t))
      : Wrote (s.site q) (.box 'a' (.one 'y' (.bytes slice.bytes))) s t := by
    obtain ⟨rfl, -⟩ := BodyCursor.openContainer_ok old opened
    have new := BodyCursor.lt_cursorCount_openContainer old opened
    exact BodyCursor.wrote_box old opened (BodyCursor.appendFixed_ok new filled) closed
  cases written with
  | array shows opened filled closed =>
      rw [← shows]
      exact array opened filled closed
  | buffer live holds done =>
      obtain ⟨inner, u, v, opened, filled, closed⟩ := BodyCursor.appendBuffer_ok live done
      obtain ⟨rfl, rfl⟩ := BodyCursor.openContainer_ok old opened
      rw [← holds]
      exact array opened filled closed

/-- Inside the array of a block there is nothing to read as a block. -/
theorem BodyCursor.readBytes_of_none (unplanned : s.Unplanned) (calm : s.thread.Calm)
    (none : (s.bodyCursor q).bytes = [])
    : ∃ b t,
        BodyCursor.readBytes ⟨some q⟩ s = (.ok b, t)
        ∧ b.own = true
        ∧ (b.toBytes? t).1 = some [] := by
  obtain ⟨b, t, made, owned, holds⟩ := Buffer.ofBytes_calm calm []
  refine ⟨b, t, ?_, owned, holds⟩
  rw [readBytes_eq unplanned, none]
  simp [made]

/-- Any array of values is read as a block without bytes. -/
theorem BodyCursor.readBlob_array {first items rest : Body} (fit : first.readable = true)
    (unplanned : s.Unplanned) (calm : s.thread.Calm) (old : q.index < s.cursorCount)
    (here : (s.bodyCursor q).rest = first ++ .container 'a' items rest)
    (coded : (first ++ .container 'a' items rest).wellCoded = true)
    : ∃ b t,
        BodyCursor.readBlob ⟨some q⟩ first.length s = (.ok b, t)
        ∧ b.own = true
        ∧ (b.toBytes? t).1 = some [] := by
  obtain ⟨u, passed, done, stands⟩ := passMany_ok fit unplanned old here coded
  have next : (u.view q).rest = .container 'a' items rest := stands
  have inside : (u.view q).rest.inside? = some { rest := items } := by
    rw [next]
    rfl
  obtain ⟨v, entered, moves, made, -⟩ :=
    readArray_enters (done.unplanned unplanned) (Nat.lt_of_lt_of_le old done.count) inside
  have none : (v.bodyCursor ⟨u.cursorCount⟩).bytes = [] := by rw [made]
  obtain ⟨b, t, found, owned, holds⟩ :=
    readBytes_of_none (moves.unplanned (done.unplanned unplanned)) (moves.calm (done.calm calm)) none
  refine ⟨b, t, ?_, owned, holds⟩
  rw [readBlob, passed, Attempt.andThen_ok, entered]
  exact found

/-- However a block of bytes was written to a message, after whatever basic values and arrays, it is
found again, as a buffer without bytes: it comes back as it was exactly when it was empty.
-/
theorem blob_reads_back_empty {m : Message} {r : Ref Native.Message} {c : BodyCursor}
    (raw : m.raw = some r) (unplanned : s.Unplanned) (calm : s.thread.Calm)
    (fit : (s.message r).body.readable = true) (writer : s.WritesAt c (.top r))
    (written : BlobWritten c bytes s t)
    : ∃ reader u b v,
        m.cursor t = (.ok reader, u)
        ∧ reader.readBlob (s.message r).body.length u = (.ok b, v)
        ∧ b.own = true
        ∧ (b.toBytes? v).1 = some []
        ∧ ((b.toBytes? v).1 = some bytes ↔ bytes = []) := by
  obtain ⟨q, place, old, top⟩ := writer
  obtain rfl := BodyCursor.eq_of_raw place
  have wrote := wrote_blob old written
  rw [top] at wrote
  have body : (t.message r).body = (s.message r).body ++ .box 'a' (.one 'y' (.bytes bytes)) :=
    wrote.written
  obtain ⟨p, u, made, fresh, oldReader, here⟩ :=
    Message.cursor_stands (wrote.unplanned unplanned) raw
  rw [body] at here
  have coded := Body.wellCoded_append (Body.wellCoded_of_readable fit)
    (show (Body.box 'a' (.one 'y' (.bytes bytes))).wellCoded = true from rfl)
  obtain ⟨b, v, found, owned, holds⟩ :=
    BodyCursor.readBlob_array fit (fresh.unplanned (wrote.unplanned unplanned))
      (fresh.calm (wrote.calm calm)) oldReader here coded
  refine ⟨⟨some p⟩, u, b, v, made, found, owned, holds, ?_⟩
  rw [holds, Option.some.injEq]
  exact eq_comm

/-- A world with a message of one integer, a writer at its end and a buffer of two bytes. -/
def blobState : State :=
  { world :=
      { messages := ⟨[{ refs := 1, body := .one 'i' (.int 5), signature := "i" }]⟩
        buffers := ⟨[{ bytes := [1, 2] }]⟩
        bodyCursors := ⟨[{ target := some ⟨0⟩ }]⟩ } }

/-- The message of that world. -/
def blobMessage : Message :=
  { raw := some ⟨0⟩, own := true }

/-- The writer of that world. -/
def blobWriter : BodyCursor :=
  ⟨some ⟨0⟩⟩

/-- That world after the buffer was written. -/
def blobSent : State :=
  (blobWriter.appendBuffer { raw := some ⟨0⟩, own := true } blobState).2

theorem blobState_unplanned
    : blobState.Unplanned :=
  rfl

theorem blobWriter_writesAt
    : blobState.WritesAt blobWriter (.top ⟨0⟩) :=
  ⟨⟨0⟩, rfl, Nat.zero_lt_one, rfl⟩

theorem blobSent_written
    : BlobWritten blobWriter [1, 2] blobState blobSent :=
  .buffer (b := { raw := some ⟨0⟩, own := true }) rfl rfl rfl

theorem blobSent_reads_back_empty
    : ∃ reader u b v,
        blobMessage.cursor blobSent = (.ok reader, u)
        ∧ reader.readBlob 1 u = (.ok b, v)
        ∧ b.own = true
        ∧ (b.toBytes? v).1 = some []
        ∧ ((b.toBytes? v).1 = some [1, 2] ↔ ([1, 2] : List UInt8) = []) :=
  blob_reads_back_empty rfl blobState_unplanned ⟨rfl, rfl⟩ rfl blobWriter_writesAt blobSent_written

/-- So not every block of bytes survives. -/
theorem blobSent_lost
    : ¬ ∀ (m : Message) (r : Ref Native.Message) (c : BodyCursor) (bytes : List UInt8) (s t : State),
        m.raw = some r
        → s.Unplanned
        → s.thread.Calm
        → (s.message r).body.readable = true
        → s.WritesAt c (.top r)
        → bytes.length < 0x80000000
        → BlobWritten c bytes s t
        → ∃ reader u b v,
            m.cursor t = (.ok reader, u)
            ∧ reader.readBlob (s.message r).body.length u = (.ok b, v)
            ∧ (b.toBytes? v).1 = some bytes := by
  intro survives
  obtain ⟨reader, u, b, v, made, found, holds⟩ :=
    survives blobMessage ⟨0⟩ blobWriter [1, 2] blobState blobSent rfl rfl ⟨rfl, rfl⟩ rfl
      blobWriter_writesAt (by decide) blobSent_written
  obtain ⟨answer, rfl⟩ := Prod.mk.inj made
  obtain rfl := Except.ok.inj answer
  have lost
      : ((BodyCursor.readBlob ⟨some ⟨2⟩⟩ 1 (blobMessage.cursor blobSent).2).1.toOption.bind fun b =>
          (b.toBytes? (BodyCursor.readBlob ⟨some ⟨2⟩⟩ 1 (blobMessage.cursor blobSent).2).2).1)
        = some [] :=
    rfl
  have same : BodyCursor.readBlob ⟨some ⟨2⟩⟩ 1 (blobMessage.cursor blobSent).2 = (.ok b, v) := found
  simp [same, Except.toOption, holds] at lost

end Custody
