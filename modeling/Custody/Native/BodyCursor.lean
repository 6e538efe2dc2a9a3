import Custody.Heap
import Custody.Native.Message

/-!
A native position inside a message body, for writing and for reading. Values written at the top
of a message go straight to its body; those written inside a container wait at the position until
the container is closed. Reading goes through the values there were when the position was made.
-/

namespace Custody.Native

/-- A position inside a body. -/
structure BodyCursor where
  /-- The message that receives the values written, at the top of its body. -/
  target : Option (Ref Message) := none
  /-- The type code of the container that is being written. -/
  code : Char := '\x00'
  /-- The signature that an array was opened with. -/
  contained : String := ""
  /-- The values written inside the container. -/
  items : Body := .empty
  /-- The signature of the values written inside the container. -/
  signature : String := ""
  /-- The values still to be read. -/
  rest : Body := .empty
  /-- The block of bytes to be read. -/
  bytes : List UInt8 := []
  /-- Whether the next write fails. -/
  failNext : Bool := false
deriving DecidableEq

instance : Inhabited BodyCursor := ⟨{}⟩

namespace BodyCursor

/-- Writes values inside the container. -/
def push (c : BodyCursor) (values : Body) (signature : String) : BodyCursor :=
  { c with signature := c.signature ++ signature, items := c.items ++ values }

/-- The signature of the container that this position writes. An array has the signature it was
opened with, a structure and a dictionary entry that of the values written.
-/
def closedSignature (c : BodyCursor) : String :=
  if c.code = 'a' then "a" ++ c.contained
  else if c.code = 'r' then "(" ++ c.signature ++ ")"
  else if c.code = 'e' then "\x7b" ++ c.signature ++ "\x7d"
  else c.code.toString

/-- A position that reads the inside of a value under the code of an array. -/
def ofScalar : Scalar → BodyCursor
  | .bytes block => { bytes := block }
  | value => { rest := .one 'v' value }

end BodyCursor

end Custody.Native
