import Custody.Heap
import Custody.Native.Buffer

/-!
A native cursor over elements that are known only by their addresses: what stands at an address
is up to the reader.
-/

namespace Custody.Native

/-- An element as the native side hands it out: a pointer and what stands behind it. -/
inductive Element
  | null
  | memory (bytes : List UInt8)
  | buffer (target : Ref Buffer)
  | address (value : UInt64)
deriving DecidableEq

instance : Inhabited Element := ⟨.null⟩

/-- A native cursor: the elements still to come, the number of calls for a next one, the lock of
its container, and the number of frees.
-/
structure Cursor where
  rest : List Element := []
  nextCalls : Nat := 0
  locked : Bool := false
  frees : Nat := 0
deriving DecidableEq

instance : Inhabited Cursor := ⟨{}⟩

end Custody.Native
