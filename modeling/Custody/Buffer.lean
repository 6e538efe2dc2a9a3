import Custody.Buffer.Store
import Custody.Handle
import Custody.Slice

/-!
Growable byte buffers in native memory, reached through wrappers. A wrapper may own its buffer,
several wrappers may share one, and a wrapper that gave its buffer up reports every use.
-/

namespace Custody

/-- Why a buffer could not be made. -/
inductive BufferError
  | alloc
  /-- The native side refused the contents. -/
  | append
deriving DecidableEq, Inhabited

/-- The text of an error. -/
def BufferError.message : BufferError → String
  | alloc => "could not alloc binbuf"
  | append => "could not append on binbuf"

/-- A wrapper of a native buffer. -/
abbrev Buffer :=
  Handle Native.Buffer

namespace Buffer

/-- A new empty buffer, owned. -/
def new (s : State) : Attempt BufferError Buffer :=
  match s.newBuffer with
  | (some r, s) => (.ok { raw := some r, own := true }, s)
  | (none, s) => (.error .alloc, s.note .bufferUnavailable)

/-- Clears the contents. -/
def reset (b : Buffer) (s : State) : State :=
  (b.use .data () (fun r s => ((), s.setContents r [])) s).2

/-- Frees the contents; the buffer stays usable. -/
def freeContents (b : Buffer) (s : State) : State :=
  b.reset s

/-- Appends the first `n` bytes of the input, and refuses to go past its end. -/
def appendLen (b : Buffer) (bytes : List UInt8) (n : Nat) : State → Bool × State :=
  b.use .data false fun r s =>
    if bytes.length < n then (false, s.note (.appendPastEnd n bytes.length))
    else s.writeEnd r (bytes.take n)

def append (b : Buffer) (bytes : List UInt8) : State → Bool × State :=
  b.appendLen bytes bytes.length

def appendByte (b : Buffer) (byte : UInt8) : State → Bool × State :=
  b.use .data false fun r s => s.writeEnd r [byte]

def appendSlice (b : Buffer) (slice : Slice) : State → Bool × State :=
  b.use .data false fun r s => s.writeEnd r slice.bytes

/-- Appends the contents of another buffer, which may be the same one. -/
def appendBuffer (b source : Buffer) : State → Bool × State :=
  b.use .data false fun r => source.use .data false fun q s => s.writeEnd r (s.buffer q).bytes

/-- Inserts the first `n` bytes of the input before `pos`, and refuses to go past its end. -/
def insertLen (b : Buffer) (bytes : List UInt8) (n pos : Nat) : State → Bool × State :=
  b.use .data false fun r s =>
    if bytes.length < n then (false, s.note (.insertPastEnd n bytes.length))
    else s.writeAt r (bytes.take n) pos

def insert (b : Buffer) (bytes : List UInt8) (pos : Nat) : State → Bool × State :=
  b.insertLen bytes bytes.length pos

def insertByte (b : Buffer) (byte : UInt8) (pos : Nat) : State → Bool × State :=
  b.use .data false fun r s => s.writeAt r [byte] pos

def insertSlice (b : Buffer) (slice : Slice) (pos : Nat) : State → Bool × State :=
  b.use .data false fun r s => s.writeAt r slice.bytes pos

/-- Removes the bytes from `start` up to, and not with, `stop`. -/
def remove (b : Buffer) (start stop : Nat) : State → Bool × State :=
  b.use .data false fun r s => s.cut r start stop

/-- A copy of the contents; none from a wrapper without a buffer. -/
def toBytes? (b : Buffer) : State → Option (List UInt8) × State :=
  b.use .data none fun r s => (some (s.buffer r).bytes, s)

def length (b : Buffer) : State → Nat × State :=
  b.use .data 0 fun r s => ((s.buffer r).bytes.length, s)

def isEmpty (b : Buffer) (s : State) : Bool × State :=
  ((b.length s).1 == 0, (b.length s).2)

/-- The contents in place. -/
def slice (b : Buffer) : State → Slice × State :=
  b.use .data (.null 0) fun r s => (.memory (s.buffer r).bytes, s)

/-- Ends the making of a buffer: one whose contents were refused is freed at once. -/
def settle (b : Buffer) (filled : Bool × State) : Attempt BufferError Buffer :=
  if filled.1 then (.ok b, filled.2) else (.error .append, (b.dispose filled.2).2)

/-- A new buffer with the first `n` bytes of the input. -/
def ofBytesLen (bytes : List UInt8) (n : Nat) (s : State) : Attempt BufferError Buffer :=
  (new s).andThen fun b s => b.settle (b.appendLen bytes n s)

/-- A new buffer with the given bytes. -/
def ofBytes (bytes : List UInt8) : State → Attempt BufferError Buffer :=
  ofBytesLen bytes bytes.length

/-- A new buffer with the contents of another. -/
def copy (source : Buffer) (s : State) : Attempt BufferError Buffer :=
  (new s).andThen fun b s => b.settle (b.appendBuffer source s)

end Buffer

end Custody
