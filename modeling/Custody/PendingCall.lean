import Custody.Bus.Error

/-!
Calls that wait for a reply. A wrapper never owns its call, and is empty once it cancelled it.
-/

namespace Custody

/-- A wrapper of a native pending call. -/
structure PendingCall where
  raw : Option (Ref Native.PendingCall) := none
deriving DecidableEq, Inhabited

namespace PendingCall

/-- The method that was called; none where the native side gives none. -/
def method (p : PendingCall) (s : State) : Attempt BusError (Option String) :=
  (s.live p.raw).andThen fun r s =>
    match s.world.planned.callMethod with
    | some text => (.ok (text.map ZeroTerminated.read), s.plan ({ · with callMethod := none }))
    | none => (.ok (some (s.call r).method), s)

/-- Cancels the call; answers the emptied wrapper. -/
def cancel (p : PendingCall) (s : State) : Attempt BusError PendingCall :=
  (s.live p.raw).andThen fun r s =>
    (.ok { raw := none }, s.setCall r { s.call r with cancelled := true })

end PendingCall

end Custody
