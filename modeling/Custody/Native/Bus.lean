import Custody.Heap
import Custody.Number.Ieee
import Custody.Text.ZeroTerminated

/-!
The native side of sending: connections, the messages they sent, and the calls that wait for a
reply.
-/

namespace Custody

/-- Names a delegate on the native side. Zero names none. -/
abbrev Token := UInt64

namespace Native

/-- A call that waits for its reply. -/
structure PendingCall where
  method : String := ""
  cancelled : Bool := false
deriving DecidableEq

instance : Inhabited PendingCall := ⟨{}⟩

/-- What a connection keeps of a message it sent. -/
structure Sent where
  token : Token
  call : Ref PendingCall
  timeout : Double
deriving DecidableEq

/-- A connection: the messages sent, in order, whether the next send fails, and the token of the
latest attempt.
-/
structure Connection where
  sent : List Sent := []
  failNext : Bool := false
  lastToken : Token := 0
deriving DecidableEq

instance : Inhabited Connection := ⟨{}⟩

end Native

end Custody
