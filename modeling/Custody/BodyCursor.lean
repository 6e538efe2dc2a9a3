import Custody.Bus.Error
import Custody.Bus.Store

/-!
Positions inside a message body, for writing values and for reading them. A position never owns
anything. What is written inside a container reaches its parent when the container is closed; what
is read is the body as it was when the position was made.
-/

namespace Custody

/-- A wrapper of a native position. -/
structure BodyCursor where
  raw : Option (Ref Native.BodyCursor) := none
deriving DecidableEq, Inhabited

namespace BodyCursor

/-- Appends a value of a basic type. -/
def append (c : BodyCursor) (a : Argument) (s : State) : Attempt BusError Unit :=
  (s.live c.raw).andThen fun r s =>
    if !a.fits then (.error .interiorNul, s)
    else
      match s.writeCursor r a with
      | (true, s) => (.ok (), s)
      | (false, s) => (.error (.appendToCursor a.code), s.note (.cursorAppendFailed a.code))

/-- Opens a container. An array and a variant are opened with the signature of what they
contain.
-/
def openContainer (c : BodyCursor) (t : ArgumentType) (contained : Option String) (s : State)
    : Attempt BusError BodyCursor :=
  (s.live c.raw).andThen fun r s =>
    if !t.isContainer then (.error (.notAContainer t.code), s)
    else if !contained.elim true ZeroTerminated.fits then (.error .interiorNul, s)
    else
      match s.openAt r t.code (contained.getD "") with
      | (some inner, s) => (.ok ⟨some inner⟩, s)
      | (none, s) => (.error (.containerOpen t.code), s.note (.containerOpenFailed t.code))

/-- Closes a container that was opened here, and so writes it. -/
def closeContainer (c inner : BodyCursor) (s : State) : Attempt BusError Unit :=
  (s.live c.raw).andThen fun r s =>
    (s.live inner.raw).andThen fun q s =>
      match s.closeAt r q with
      | (true, s) => (.ok (), s)
      | (false, s) => (.error .containerClose, s.note .containerCloseFailed)

/-- Appends a block of elements to the array that is written here. The elements must be bytes,
and their number must fit in 32 bits.
-/
def appendFixed (c : BodyCursor) (t : ArgumentType) (slice : Slice) (s : State)
    : Attempt BusError Unit :=
  (s.live c.raw).andThen fun r s =>
    if t ≠ .byte || UInt32.size ≤ slice.length then (.error (.appendToCursor t.code), s)
    else
      match s.writeBlock r slice.bytes with
      | (true, s) => (.ok (), s)
      | (false, s) =>
          (.error (.appendToCursor t.code), s.note (.fixedArrayFailed t.code slice.length))

/-- Appends the contents of a buffer as an array of bytes. The array is closed in any case; of
two errors the first is answered.
-/
def appendBuffer (c : BodyCursor) (b : Buffer) (s : State) : Attempt BusError Unit :=
  (c.openContainer .array (some "y") s).andThen fun inner s =>
    let (slice, s) := b.slice s
    let (appended, s) := inner.appendFixed .byte slice s
    let (closed, s) := c.closeContainer inner s
    (appended.bind fun _ => closed, s)

/-- The signature of the values still to be read; none at the end. -/
def signature (c : BodyCursor) (s : State) : Option String × State :=
  match c.raw with
  | none => (none, s.raiseNullHandle .bus)
  | some r =>
      let (text, s) := s.restSignature r
      (if text = "" then none else some text, s)

/-- The type of the next value, told from the first letter of the signature. -/
def currentType (c : BodyCursor) (s : State) : Option ArgumentType × State :=
  let (text, s) := c.signature s
  ((text.bind fun t => t.toList.head?).bind ArgumentType.ofCode?, s)

/-- Reads the next value, which must be of a basic type. -/
def read (c : BodyCursor) (s : State) : Attempt BusError Argument :=
  (s.live c.raw).andThen fun r s =>
    match c.currentType s with
    | (none, s) => (.error (.read '\x00'), s)
    | (some t, s) =>
        if !t.isBasic then (.error (.read t.code), s)
        else
          let (slot, s) := s.readSlot r t.code
          match slot.bind (Argument.ofSlot? t) with
          | some a => (.ok a, s)
          | none => (.error (.read t.code), s)

/-- Enters the array that comes next, and passes it. -/
def readArray (c : BodyCursor) (s : State) : Attempt BusError BodyCursor :=
  (s.live c.raw).andThen fun r s =>
    match s.readSlot r ArgumentType.array.code with
    | (some (.inside (some inner)), s) => (.ok ⟨some inner⟩, s)
    | (_, s) => (.error (.read ArgumentType.array.code), s)

/-- Copies the block of bytes that is read here into a new buffer. -/
def readBytes (c : BodyCursor) (s : State) : Attempt BusError Buffer :=
  (s.live c.raw).andThen fun r s =>
    match s.readBlock r with
    | (none, s) => (.error (.read ArgumentType.byte.code), s)
    | (some (count, bytes), s) =>
        if count < 0 then (.error (.read ArgumentType.byte.code), s)
        else
          match Buffer.ofBytes ((bytes.getD []).take count.toNat) s with
          | (.ok b, s) => (.ok b, s)
          | (.error e, s) => (.error (.buffer e), s)

/-- The next `n` values of basic types; the first that cannot be read ends the attempt. -/
def readMany : Nat → BodyCursor → State → Attempt BusError (List Argument)
  | 0, _, s => (.ok [], s)
  | n + 1, c, s =>
      (c.read s).andThen fun a s =>
        (readMany n c s).andThen fun rest s => (.ok (a :: rest), s)

end BodyCursor

end Custody
