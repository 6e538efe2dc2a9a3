import Custody.Buffer

/-!
Buffers that belong to someone else. A view reads and never writes, frees or reports.
-/

namespace Custody

/-- A buffer looked at, or null. -/
structure BufferView where
  raw : Option (Ref Native.Buffer)
deriving DecidableEq, Inhabited

/-- A view of the buffer behind a wrapper. -/
def Buffer.view (b : Buffer) : BufferView :=
  ⟨b.raw⟩

namespace BufferView

/-- Whether there is no buffer to look at. -/
def isNull (v : BufferView) : Bool :=
  v.raw.isNone

/-- The number of bytes; a null view has none. -/
def length (v : BufferView) (s : State) : Nat :=
  v.raw.elim 0 fun r => (s.buffer r).bytes.length

/-- Whether there are no bytes. -/
def isEmpty (v : BufferView) (s : State) : Bool :=
  v.length s == 0

/-- The contents in place; a null view shows memory without bytes. -/
def slice (v : BufferView) (s : State) : Slice :=
  .memory (v.raw.elim [] fun r => (s.buffer r).bytes)

/-- A copy of the contents; none from a null view. -/
def toBytes? (v : BufferView) (s : State) : Option (List UInt8) :=
  v.raw.map fun _ => (v.slice s).bytes

/-- A new buffer with the contents; an empty one from a null view. -/
def toBuffer (v : BufferView) (s : State) : Attempt BufferError Buffer :=
  (Buffer.new s).andThen fun b s => b.settle (b.appendSlice (v.slice s) s)

end BufferView

end Custody
