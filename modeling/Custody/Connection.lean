import Custody.Message
import Custody.PendingCall
import Custody.Exchange

/-!
Sending messages over a connection. The reference to the message moves to the native side, and
the delegate waits under a token until the reply comes.
-/

namespace Custody

namespace State

/-- Sends a message: the native side keeps the token and the timeout with a new pending call. -/
def sendNative (s : State) (c : Ref Native.Connection) (m : Ref Native.Message) (t : Token)
    (timeout : Double) : Option (Ref Native.PendingCall) × State :=
  let line := { s.connection c with lastToken := t }
  if line.failNext then (none, s.setConnection c { line with failNext := false })
  else
    let (call, s) := s.newCall { method := ZeroTerminated.kept (s.message m).method }
    (some call, s.setConnection c { line with sent := line.sent ++ [⟨t, call, timeout⟩] })

end State

/-- Sends a message and lets a delegate wait for the reply. An owned message hands over its
reference, a borrowed one a new reference. The wrapper ends here in any case.
-/
def Exchange.send (p : Exchange) (c : Connection) (m : Message) (timeout : Double) (d : Delegate)
    : Except BusError PendingCall × Exchange :=
  match p.state.live c.raw with
  | (.error e, s) => (.error e, { p with state := m.drop s })
  | (.ok line, s) =>
      match s.live m.raw with
      | (.error e, s) => (.error e, { p with state := m.drop s })
      | (.ok r, s) =>
          let s := if m.own then s else s.addRef r
          let (t, delegates) := p.delegates.register d
          match s.sendNative line r t timeout with
          | (some call, s) => (.ok ⟨some call⟩, { p with state := s.note .sent, delegates })
          | (none, s) =>
              (.error .send,
                { p with state := s.note .sendFailed, delegates := delegates.erase t })

/-- A send adds at most the weight of its delegate to the table. -/
theorem Exchange.weight_send_le (p : Exchange) (c : Connection) (m : Message) (timeout : Double)
    (d : Delegate)
    : (p.send c m timeout d).2.weight ≤ p.weight + d.weight := by
  have registered := p.delegates.weight_register_le d
  have erased := (p.delegates.register d).2.weight_erase_le (p.delegates.register d).1
  unfold Exchange.send
  split
  · exact Nat.le_add_right _ _
  · split
    · exact Nat.le_add_right _ _
    · dsimp only
      split
      · exact registered
      · exact Nat.le_trans erased registered

/-- The same bound for a send whose outcome is known. -/
theorem Exchange.weight_of_send (p : Exchange) {c : Connection} {m : Message} {timeout : Double}
    {d : Delegate} {r : Except BusError PendingCall} {q : Exchange}
    (sent : p.send c m timeout d = (r, q))
    : q.weight ≤ p.weight + d.weight := by
  have bound := p.weight_send_le c m timeout d
  rwa [sent] at bound

end Custody
