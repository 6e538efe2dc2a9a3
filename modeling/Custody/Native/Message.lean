import Custody.Body
import Custody.Text.ZeroTerminated

/-!
A native message: counted references, a body with its signature, and what it is about.
-/

namespace Custody.Native

/-- What an error reply says. -/
structure Fault where
  name : String
  text : String
deriving DecidableEq, Inhabited

/-- A native message. Its signature is kept beside its body, as the values are written. -/
structure Message where
  refs : Nat := 0
  unrefs : Nat := 0
  body : Body := .empty
  signature : String := ""
  fault : Option Fault := none
  method : String := ""
  failNext : Bool := false
deriving DecidableEq

instance : Inhabited Message := ⟨{}⟩

namespace Message

/-- A new message about a method, with the one reference its maker holds. -/
def ofMethod (method : String) : Message :=
  { refs := 1, method }

/-- Writes values at the end of the body, and their signature at the end of the signature. -/
def push (m : Message) (values : Body) (signature : String) : Message :=
  { m with
    signature := ZeroTerminated.kept (m.signature ++ signature)
    body := m.body ++ values }

/-- Replaces the body; the signature is told from its values. -/
def setBody (m : Message) (body : Body) : Message :=
  { m with signature := ZeroTerminated.kept body.signature, body }

/-- Makes the message an error reply. -/
def setFault (m : Message) (name text : String) : Message :=
  { m with fault := some ⟨ZeroTerminated.kept name, ZeroTerminated.kept text⟩ }

end Message

end Custody.Native
