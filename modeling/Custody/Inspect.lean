import Custody.Connection
import Custody.Cursor

/-!
Wrappers as texts, for a person who looks for a mistake. An address is only told from null.
-/

namespace Custody

/-- A record with its fields in braces. -/
def inspectRecord (name : String) (fields : List (String × String)) : String :=
  let shown := fields.map fun (field, value) => field ++ ": " ++ value
  name ++ " \x7b " ++ ", ".intercalate shown ++ " \x7d"

/-- A pointer: null, or some address. -/
def inspectPointer {α : Type} (raw : Option (Ref α)) : String :=
  if raw.isNone then "0x0" else "PTR"

/-- A flag. -/
def inspectFlag (b : Bool) : String :=
  if b then "true" else "false"

/-- An ownership token. -/
def Handle.inspect {α : Type} (h : Handle α) : String :=
  inspectRecord "OwnedHandle" [("raw", inspectPointer h.raw), ("own", inspectFlag h.own)]

/-- A wrapper of a buffer. -/
def Buffer.inspect (b : Buffer) : String :=
  inspectRecord "Binbuf" [("handle", Handle.inspect b)]

/-- A wrapper of a cursor. -/
def Cursor.inspect {k : ElementKind} (c : Cursor k) : String :=
  inspectRecord "EinaIterator"
    [("handle", c.handle.inspect), ("exhausted", inspectFlag c.exhausted)]

/-- A wrapper of a message. -/
def Message.inspect (m : Message) : String :=
  inspectRecord "Message" [("handle", Handle.inspect m)]

/-- A wrapper of a pending call. -/
def PendingCall.inspect (p : PendingCall) : String :=
  inspectRecord "Pending" [("raw", inspectPointer p.raw)]

/-- A borrowed connection. -/
def Connection.inspect (c : Connection) : String :=
  inspectRecord "Connection" [("raw", inspectPointer c.raw)]

end Custody
