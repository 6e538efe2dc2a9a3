/-!
A byte buffer in native memory. Its contents stay readable after it is freed, and it counts how
often it was freed.
-/

namespace Custody.Native

/-- A native buffer: its contents, whether its next change fails, and the number of frees. -/
structure Buffer where
  bytes : List UInt8 := []
  failNext : Bool := false
  frees : Nat := 0
deriving DecidableEq

instance : Inhabited Buffer := ⟨{}⟩

end Custody.Native
