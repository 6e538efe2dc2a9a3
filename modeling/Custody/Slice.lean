/-!
A stretch of native memory that is looked at and not owned: a length, and the bytes unless the
memory is null.
-/

namespace Custody

/-- A view of native memory. -/
inductive Slice
  | null (length : Nat)
  | memory (bytes : List UInt8)
deriving DecidableEq

namespace Slice

/-- The length the view claims. -/
def length : Slice → Nat
  | null length => length
  | memory bytes => bytes.length

/-- Whether the view claims no bytes. -/
def isEmpty (s : Slice) : Bool :=
  s.length == 0

/-- The bytes there are; null memory has none, whatever length it claims. -/
def bytes : Slice → List UInt8
  | null _ => []
  | memory bytes => bytes

end Slice

end Custody
