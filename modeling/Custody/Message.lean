import Custody.BodyCursor

/-!
Messages of the bus, reached through wrappers that may each hold one reference.
-/

namespace Custody

/-- A wrapper of a native message. -/
abbrev Message :=
  Handle Native.Message

namespace Message

/-- A new call of a method, owned. None of the four texts may hold a NUL. -/
def methodCall (destination path interface method : String) (s : State)
    : Attempt BusError Message :=
  if !([destination, path, interface, method].all ZeroTerminated.fits) then
    (.error .interiorNul, s)
  else
    match s.makeMessage method with
    | (some r, s) => (.ok { raw := some r, own := true }, s)
    | (none, s) => (.error .messageNew, s.note .messageUnavailable)

/-- A new reference to the message, owned. -/
def newRef (m : Message) (s : State) : Attempt BusError Message :=
  (s.live m.raw).andThen fun r s => (.ok { raw := some r, own := true }, s.addRef r)

/-- The signature of the body. -/
def signature (m : Message) (s : State) : Attempt BusError String :=
  (s.live m.raw).andThen fun r s =>
    let (text, s) := s.messageSignature r
    (.ok text, s)

/-- What the message says if it is an error reply. -/
def fault (m : Message) (s : State) : Attempt BusError (Option Native.Fault) :=
  (s.live m.raw).andThen fun r s =>
    let (fault, s) := s.messageFault r
    (.ok fault, s)

/-- A position at the start of the body. -/
def cursor (m : Message) (s : State) : Attempt BusError BodyCursor :=
  (s.live m.raw).andThen fun r s =>
    let (c, s) := s.makeBodyCursor r
    (s.live c).andThen fun c s => (.ok ⟨some c⟩, s)

/-- Appends a value of a basic type to the body. -/
def append (m : Message) (a : Argument) (s : State) : Attempt BusError Unit :=
  (s.live m.raw).andThen fun r s =>
    if !a.fits then (.error .interiorNul, s)
    else
      match s.writeMessage r a with
      | (true, s) => (.ok (), s)
      | (false, s) => (.error (.appendToMessage a.code), s.note (.messageAppendFailed a.code))

/-- Appends values in order, up to the first that fails. -/
def appendAll (m : Message) : List Argument → State → Attempt BusError Unit
  | [], s => (.ok (), s)
  | a :: rest, s => (m.append a s).andThen fun _ s => m.appendAll rest s

end Message

end Custody
