import Custody.Proofs.Writing.Drafts
import Mathlib.Algebra.Group.Nat.Defs

/-! Arrays of bytes are stored in three ways, and there are two ways of reading inside one: its bytes
copied as a block, or read as values one by one. A block is copied only where it stands in the place of the
array, and values are read only where each byte is one; so both ways find the bytes only if there are none.
-/

namespace Custody

open State

/-- How an array of bytes is stored: byte by byte, as one block inside the array, or as a block in the
place of the array.
-/
inductive ByteShape
  | elements
  | piece
  | bare
deriving DecidableEq

/-- Basic values, one after the other. -/
def Draft.basics (values : List Argument) : Draft :=
  values.foldr .basic .empty

namespace ByteShape

/-- The values inside a stored array of bytes. -/
def items (bytes : List UInt8) : ByteShape → Body
  | elements => (Draft.basics (bytes.map .byte)).body
  | piece => .one 'y' (.bytes bytes)
  | bare => .empty

/-- The block that stands in the place of a stored array of bytes. -/
def block (bytes : List UInt8) : ByteShape → List UInt8
  | bare => bytes
  | _ => []

/-- A stored array of bytes, before other values. -/
def stored (bytes : List UInt8) (later : Body) : ByteShape → Body
  | bare => .scalar 'a' (.bytes bytes) later
  | shape => .container 'a' (shape.items bytes) later

/-- The bytes that are read one by one up to the end, if the end is reached. -/
def readOut? (bytes : List UInt8) : ByteShape → Option (List UInt8)
  | elements => some bytes
  | piece => none
  | bare => some []

theorem wellCoded_stored {later : Body} (coded : later.wellCoded = true) (bytes : List UInt8)
    (shape : ByteShape)
    : (shape.stored bytes later).wellCoded = true := by
  have array : (ArgumentType.ofCode? 'a').isSome = true := rfl
  cases shape with
  | elements => simp [stored, items, Body.wellCoded, array, Draft.wellCoded_body, coded]
  | piece =>
      have byte : (Body.one 'y' (.bytes bytes)).wellCoded = true := rfl
      simp [stored, items, Body.wellCoded, array, byte, coded]
  | bare => simp [stored, Body.wellCoded, array, coded]

end ByteShape

/-- Putting an array of bytes into a message, after the values in `first`: each byte appended inside an
array that is opened for bytes; a block appended there, or a buffer; or all values of the message given
from outside, and one of them such an array. Other values may be written after it.
-/
inductive BytesPut (r : Ref Native.Message) (bytes : List UInt8)
    : ByteShape → Body → State → State → Prop
  | elements {ws later states s t} (writers : ∀ w ∈ ws, s.HasWriter (.top r) w)
      (written
        : Draft.Written ws (.container .array (some "y") (.basics (bytes.map .byte)) later)
            s states t)
    : BytesPut r bytes .elements (s.message r).body s t
  | piece {ws later states s t} (writers : ∀ w ∈ ws, s.HasWriter (.top r) w)
      (written : Draft.Written ws (.block bytes later) s states t)
    : BytesPut r bytes .piece (s.message r).body s t
  | given {shape first later s} (coded : later.wellCoded = true)
    : BytesPut r bytes shape first s
        (s.setMessage r ((s.message r).setBody (first ++ shape.stored bytes later)))

namespace BodyCursor

/-- The bytes that are copied here as a block. -/
def Copies (c : BodyCursor) (s : State) (bytes : List UInt8) : Prop :=
  ∃ b t, c.readBytes s = (.ok b, t) ∧ (b.toBytes? t).1 = some bytes

/-- Basic values are read here one by one, up to the end, which is told by NUL. -/
inductive ReadsOut (c : BodyCursor) : State → List Argument → Prop
  | ended {s t} (told : c.read s = (.error (.read '\x00'), t)) : ReadsOut c s []
  | next {s a t rest} (found : c.read s = (.ok a, t)) (more : ReadsOut c t rest)
    : ReadsOut c s (a :: rest)

end BodyCursor

variable {s t : State} {r : Ref Native.Message} {q : Ref Native.BodyCursor}
variable {bytes found : List UInt8} {shape : ByteShape} {first later : Body}

-----------------------------------------------------------------------------------------
-- Inside an array
-----------------------------------------------------------------------------------------

namespace BodyCursor

theorem copies_iff (unplanned : s.Unplanned) (calm : s.thread.Calm)
    (small : (s.bodyCursor q).bytes.length < 2 ^ 31)
    : Copies ⟨some q⟩ s found ↔ found = (s.bodyCursor q).bytes := by
  obtain ⟨b, t, made, -, holds⟩ := Buffer.ofBytes_calm calm (s.bodyCursor q).bytes
  have copied : BodyCursor.readBytes ⟨some q⟩ s = (.ok b, t) := by
    rw [readBytes_eq unplanned, Int32.toInt_ofNat_of_lt small]
    simp [made]
  constructor
  · rintro ⟨b', t', copied', holds'⟩
    rw [copied] at copied'
    obtain ⟨⟨⟩, rfl⟩ := Prod.mk.inj copied'
    rw [holds] at holds'
    exact (Option.some.inj holds').symm
  · rintro rfl
    exact ⟨b, t, copied, holds⟩

/-- What is read one by one up to the end is determined, by induction on the reads. -/
theorem ReadsOut.unique {c : BodyCursor} {as bs : List Argument} (one : ReadsOut c s as)
    (other : ReadsOut c s bs)
    : as = bs := by
  induction one generalizing bs with
  | ended told =>
      cases other with
      | ended => rfl
      | next found _ => simp [told] at found
  | next found _ ih =>
      cases other with
      | ended told => simp [found] at told
      | next found' more' =>
          rw [found] at found'
          obtain ⟨⟨⟩, rfl⟩ := Prod.mk.inj found'
          rw [ih more']

theorem readsOut_empty (unplanned : s.Unplanned) (here : (s.bodyCursor q).rest = .empty)
    : ReadsOut ⟨some q⟩ s [] := by
  apply ReadsOut.ended
  rw [read_eq unplanned here rfl]
  rfl

/-- Basic values are read out as they are, by induction on them. -/
theorem readsOut_basics {values : List Argument} (fit : values.all Argument.fits = true)
    (unplanned : s.Unplanned) (here : (s.bodyCursor q).rest = (Draft.basics values).body)
    : ReadsOut ⟨some q⟩ s values := by
  induction values generalizing s with
  | nil => exact readsOut_empty unplanned here
  | cons a rest ih =>
      simp only [List.all_cons, Bool.and_eq_true] at fit
      have coded := (Draft.basics (a :: rest)).wellCoded_body
      have found := read_basic unplanned here coded a.isBasic_type (a.ofSlot?_scalar fit.1)
      exact .next found (ih fit.2 unplanned (s.rest_moveTo q _))

/-- A block inside the array is no value that can be read. -/
theorem not_readsOut_piece {values : List Argument} (unplanned : s.Unplanned)
    (here : (s.bodyCursor q).rest = .one 'y' (.bytes bytes))
    : ¬ ReadsOut ⟨some q⟩ s values := by
  have told : (Body.one 'y' (.bytes bytes)).toldType = some .byte := Body.toldType_of_code? rfl rfl
  have refused : (BodyCursor.read ⟨some q⟩ s).1 = .error (.read 'y') := by
    rw [read_eq unplanned here rfl, told]
    have notArray : 'y' ≠ 'a' := by decide
    have slot := readSlot_scalar unplanned notArray here
    simp only [ArgumentType.code, slot]
    rfl
  intro reads
  cases reads with
  | ended told => simp [told] at refused
  | next found _ => simp [found] at refused

/-- The bytes of an array are read out one by one exactly where each is stored as a value. -/
theorem readsOut_items_iff (unplanned : s.Unplanned)
    (here : (s.bodyCursor q).rest = shape.items bytes)
    : ReadsOut ⟨some q⟩ s (found.map .byte) ↔ shape.readOut? bytes = some found := by
  have bytesOnly {known : List UInt8} (reads : ReadsOut ⟨some q⟩ s (known.map .byte))
      : ReadsOut ⟨some q⟩ s (found.map .byte) ↔ some known = some found := by
    constructor
    · intro others
      have same := reads.unique others
      rw [(List.map_inj_right fun _ _ => Argument.byte.inj).1 same]
    · rintro ⟨⟩
      exact reads
  cases shape with
  | elements =>
      refine bytesOnly (readsOut_basics ?_ unplanned here)
      simp [Argument.fits, Argument.text?]
  | piece => simp [ByteShape.readOut?, not_readsOut_piece unplanned here]
  | bare => exact bytesOnly (readsOut_empty unplanned here)

/-- Entering a stored array of bytes, a reader has its values before it, and its block. -/
theorem readArray_stored (unplanned : s.Unplanned) (old : q.index < s.cursorCount)
    (here : (s.bodyCursor q).rest = shape.stored bytes later)
    : ∃ p t,
        BodyCursor.readArray ⟨some q⟩ s = (.ok ⟨some p⟩, t)
        ∧ ReadAt q s t
        ∧ (t.bodyCursor p).rest = shape.items bytes
        ∧ (t.bodyCursor p).bytes = shape.block bytes := by
  have next : (s.view q).rest = shape.stored bytes later := here
  have inside
      : (s.view q).rest.inside?
        = some { rest := shape.items bytes, bytes := shape.block bytes } := by
    rw [next]
    cases shape <;> rfl
  obtain ⟨t, entered, moves, stands, -⟩ := readArray_enters unplanned old inside
  refine ⟨_, t, entered, moves, ?_, ?_⟩
  · rw [stands]
  · rw [stands]

end BodyCursor

-----------------------------------------------------------------------------------------
-- In a message
-----------------------------------------------------------------------------------------

/-- However an array of bytes was put into a message, it is there, as its way stores it. -/
theorem BytesPut.arrived (put : BytesPut r bytes shape first s t)
    : (s.Unplanned → t.Unplanned)
      ∧ (s.thread.Calm → t.thread.Calm)
      ∧ ∃ later,
          later.wellCoded = true
          ∧ (t.message r).body = first ++ shape.stored bytes later := by
  cases put with
  | elements writers written | piece writers written =>
      obtain ⟨done, -⟩ := written.signed (e := .top r) trivial writers
      exact ⟨done.unplanned, done.calm, _, Draft.wellCoded_body _, done.written⟩
  | @given _ _ later _ coded =>
      have body := congrArg Native.Message.body
        (s.world.messages.get_put_self r
          ((s.message r).setBody (first ++ shape.stored bytes later)))
      exact ⟨id, id, later, coded, body⟩

/-- What a reader finds in an array of bytes that was put into a message: its block, and its values. -/
theorem BytesPut.read_inside {m : Message} (put : BytesPut r bytes shape first s t)
    (raw : m.raw = some r) (unplanned : s.Unplanned) (calm : s.thread.Calm)
    (small : bytes.length < 2 ^ 31) (fit : first.readable = true)
    : ∃ reader u inner v,
        m.cursor t = (.ok reader, u)
        ∧ ((reader.passMany first.length u).andThen fun _ s => reader.readArray s)
          = (.ok inner, v)
        ∧ (∀ found, inner.Copies v found ↔ found = shape.block bytes)
        ∧ ∀ found : List UInt8,
            inner.ReadsOut v (found.map .byte) ↔ shape.readOut? bytes = some found := by
  obtain ⟨keeps, keepsCalm, later, coded, body⟩ := put.arrived
  obtain ⟨q, u, made, fresh, old, here⟩ := Message.cursor_stands (keeps unplanned) raw
  rw [body] at here
  have codedAll := Body.wellCoded_append (Body.wellCoded_of_readable fit)
    (ByteShape.wellCoded_stored coded bytes shape)
  have unplannedRead := fresh.unplanned (keeps unplanned)
  obtain ⟨v, passed, moved, stands⟩ :=
    BodyCursor.passMany_ok fit unplannedRead old here codedAll
  obtain ⟨p, w, entered, done, values, block⟩ :=
    BodyCursor.readArray_stored (moved.unplanned unplannedRead)
      (Nat.lt_of_lt_of_le old moved.count) stands
  have unplannedInside := done.unplanned (moved.unplanned unplannedRead)
  have calmInside := done.calm (moved.calm (fresh.calm (keepsCalm calm)))
  have smallBlock : (w.bodyCursor p).bytes.length < 2 ^ 31 := by
    rw [block]
    cases shape with
    | elements | piece => exact Nat.two_pow_pos 31
    | bare => exact small
  refine ⟨⟨some q⟩, u, ⟨some p⟩, w, made, ?_, ?_, ?_⟩
  · rw [passed]
    exact entered
  · intro found
    rw [BodyCursor.copies_iff unplannedInside calmInside smallBlock, block]
  · intro found
    exact BodyCursor.readsOut_items_iff unplannedInside values

/-- However an array of bytes was put into a message, after whatever basic values and arrays, a reader
inside it copies as a block what stands in the place of the array, and reads one by one what is stored byte
by byte. Both find the bytes of the array exactly if there are none, and not where a block without bytes
stands inside.
-/
theorem byte_array_readers_agree_iff {m : Message} (raw : m.raw = some r) (unplanned : s.Unplanned)
    (calm : s.thread.Calm) (small : bytes.length < 2 ^ 31) (fit : first.readable = true)
    (put : BytesPut r bytes shape first s t)
    : ∃ reader u inner v,
        m.cursor t = (.ok reader, u)
        ∧ ((reader.passMany first.length u).andThen fun _ s => reader.readArray s)
          = (.ok inner, v)
        ∧ (∀ found, inner.Copies v found ↔ found = shape.block bytes)
        ∧ (∀ found : List UInt8,
            inner.ReadsOut v (found.map .byte) ↔ shape.readOut? bytes = some found)
        ∧ (inner.Copies v bytes ∧ inner.ReadsOut v (bytes.map .byte)
            ↔ bytes = [] ∧ shape ≠ .piece) := by
  obtain ⟨reader, u, inner, v, made, entered, copied, read⟩ :=
    put.read_inside raw unplanned calm small fit
  refine ⟨reader, u, inner, v, made, entered, copied, read, ?_⟩
  rw [copied, read]
  cases shape with
  | elements => simp [ByteShape.block, ByteShape.readOut?]
  | piece => simp [ByteShape.readOut?]
  | bare => simp [ByteShape.block, ByteShape.readOut?, eq_comm]

/-- Two bytes, each a value of an array. -/
def pairDraft : Draft :=
  .container .array (some "y") (.basics ([1, 2].map .byte)) .empty

theorem pairDraft_written
    : ∃ states t, Draft.Written [.position blobWriter] pairDraft blobState states t :=
  ⟨_, _,
    .container (List.mem_singleton_self _)
      (show BodyCursor.openContainer _ .array (some "y") _ = _ from rfl)
      (.basic (List.mem_singleton_self _) rfl
        (.basic (List.mem_singleton_self _) rfl .done))
      rfl .done⟩

theorem pairDraft_put
    : ∃ t, BytesPut ⟨0⟩ [1, 2] .elements (.one 'i' (.int 5)) blobState t := by
  obtain ⟨states, t, written⟩ := pairDraft_written
  have writers : ∀ w ∈ [Writer.position blobWriter], blobState.HasWriter (.top ⟨0⟩) w :=
    List.forall_mem_singleton.2 blobWriter_writesAt
  exact ⟨t, .elements writers written⟩

theorem pairDraft_readers_differ
    : ∃ reader t u inner v,
        blobMessage.cursor t = (.ok reader, u)
        ∧ ((reader.passMany 1 u).andThen fun _ s => reader.readArray s) = (.ok inner, v)
        ∧ inner.Copies v []
        ∧ inner.ReadsOut v [.byte 1, .byte 2] := by
  obtain ⟨t, put⟩ := pairDraft_put
  obtain ⟨reader, u, inner, v, made, entered, copied, read, -⟩ :=
    byte_array_readers_agree_iff (show blobMessage.raw = some ⟨0⟩ from rfl) blobState_unplanned
      ⟨rfl, rfl⟩ (by decide) rfl put
  exact ⟨reader, t, u, inner, v, made, entered, (copied []).2 rfl, (read [1, 2]).2 rfl⟩

/-- So the two ways of reading are not always the same. -/
theorem pairDraft_copied_short
    : ¬ ∀ (m : Message) (r : Ref Native.Message) (bytes : List UInt8) (shape : ByteShape)
        (first : Body) (s t : State),
        m.raw = some r
        → s.Unplanned
        → s.thread.Calm
        → bytes.length < 2 ^ 31
        → first.readable = true
        → BytesPut r bytes shape first s t
        → ∃ reader u inner v,
            m.cursor t = (.ok reader, u)
            ∧ ((reader.passMany first.length u).andThen fun _ s => reader.readArray s)
              = (.ok inner, v)
            ∧ inner.Copies v bytes
            ∧ inner.ReadsOut v (bytes.map .byte) := by
  intro agree
  obtain ⟨t, put⟩ := pairDraft_put
  obtain ⟨reader, u, inner, v, made, entered, copies, -⟩ :=
    agree blobMessage ⟨0⟩ [1, 2] .elements (.one 'i' (.int 5)) blobState t rfl
      blobState_unplanned ⟨rfl, rfl⟩ (by decide) rfl put
  obtain ⟨reader', u', inner', v', made', entered', copied, -⟩ :=
    put.read_inside (show blobMessage.raw = some ⟨0⟩ from rfl) blobState_unplanned ⟨rfl, rfl⟩
      (by decide) rfl
  obtain ⟨⟨⟩, rfl⟩ := Prod.mk.inj (made.symm.trans made')
  obtain ⟨⟨⟩, rfl⟩ := Prod.mk.inj (entered.symm.trans entered')
  exact absurd ((copied [1, 2]).1 copies) (by decide)

end Custody
