import Custody.Dispatch

/-!
The run of a delegate step by step: one equation per kind of step, in which the weights that bound
the run no longer occur, and the bounds themselves, by which a fact about runs is shown by
induction on the steps that can still be taken.
-/

namespace Custody.Exchange

/-- A token that names no delegate is only reported, by cases of the look-up. -/
theorem dispatch_of_take?_none {p : Exchange} {t : Token} (m : Option (Ref Native.Message))
    (c : Option (Ref Native.PendingCall)) (unknown : p.delegates.take? t = none)
    : p.dispatch t m c = (.unknownDelegate, p.note .unknownDelegate) := by
  unfold dispatch dispatchBy
  split <;> simp_all

/-- A delegate that is found for two live pointers runs without its entry. -/
theorem dispatch_of_take?_some {p : Exchange} {t : Token} {d : Delegate} {delegates : Registry}
    (m : Ref Native.Message) (c : Ref Native.PendingCall)
    (taken : p.delegates.take? t = some (d, delegates))
    : p.dispatch t (some m) (some c)
      = (runDelegate { p with delegates } d (Seat.start m c)).2.settle
          (runDelegate { p with delegates } d (Seat.start m c)).1 := by
  unfold dispatch dispatchBy
  split
  · simp_all
  · rename_i found rest taken'
    obtain ⟨rfl, rfl⟩ : found = d ∧ rest = delegates := by simp_all
    rfl

/-- A delegate that is found for a null pointer is taken out, and does not run. -/
theorem dispatch_of_null {p : Exchange} {t : Token} {d : Delegate} {delegates : Registry}
    {m : Option (Ref Native.Message)} {c : Option (Ref Native.PendingCall)}
    (taken : p.delegates.take? t = some (d, delegates)) (null : m = none ∨ c = none)
    : p.dispatch t m c = (.badHandles, { p with delegates }.note .nullReply) := by
  unfold dispatch dispatchBy
  split
  · simp_all
  · rename_i found rest taken'
    obtain ⟨rfl, rfl⟩ : found = d ∧ rest = delegates := by simp_all
    rcases null with rfl | rfl
    · rfl
    · cases m <;> rfl

/-- A dispatch never adds weight to the table. -/
theorem weight_dispatch_le (p : Exchange) (t : Token) (m : Option (Ref Native.Message))
    (c : Option (Ref Native.PendingCall))
    : (p.dispatch t m c).2.weight ≤ p.weight :=
  (p.dispatchBy t m c fun d seat q lighter => (runBounded d seat q).raise lighter).2

/-- A delegate that ends reports what it learnt. -/
@[simp]
theorem runDelegate_finish (p : Exchange) (ending : Ending) (seat : Seat)
    : p.runDelegate (.finish ending) seat = (ending.ended, p.leave seat) := by
  rw [runDelegate, runBounded]

/-- An act that fails ends the delegate with its error. -/
theorem runDelegate_act (p : Exchange) (act : Act) (next : Delegate) (seat : Seat)
    : p.runDelegate (.act act next) seat
      = match seat.perform p.state act with
        | (.ok a, seat, state) => runDelegate { p with state } next (seat.learn a)
        | (.error e, seat, state) =>
            (.failed e.message, { p with state }.leave (seat.learn (.failed e))) := by
  rw [runDelegate, runBounded]
  split <;> simp_all [runDelegate, Bounded.raise]

/-- An act on the table never fails. -/
theorem runDelegate_table (p : Exchange) (act : TableAct) (next : Delegate) (seat : Seat)
    : p.runDelegate (.table act next) seat
      = runDelegate { p with delegates := (p.delegates.perform act).2 } next
          (seat.learn (p.delegates.perform act).1) := by
  rw [runDelegate, runBounded]
  rfl

/-- A registration answers the token of the child. -/
theorem runDelegate_register (p : Exchange) (child next : Delegate) (seat : Seat)
    : p.runDelegate (.register child next) seat
      = runDelegate { p with delegates := (p.delegates.register child).2 } next
          (seat.learn (.token (p.delegates.register child).1)) := by
  rw [runDelegate, runBounded]
  rfl

/-- A dispatch from inside is a dispatch of the seat's own reply and pending call. -/
theorem runDelegate_dispatch (p : Exchange) (t : Token) (next : Delegate) (seat : Seat)
    : p.runDelegate (.dispatch t next) seat
      = (p.dispatch t seat.reply.raw seat.call.raw).2.runDelegate next
          (seat.learn (.outcome (p.dispatch t seat.reply.raw seat.call.raw).1)) := by
  rw [runDelegate, runBounded]
  rfl

/-- A callback from inside has the effect of a dispatch, and answers nothing. -/
theorem runDelegate_callback (p : Exchange) (t : Token) (next : Delegate) (seat : Seat)
    : p.runDelegate (.callback t next) seat
      = (p.callback t seat.reply.raw seat.call.raw).runDelegate next (seat.learn .done) := by
  rw [runDelegate, runBounded]
  rfl

/-- A forwarded reply is sent under a reference of its own; a send that fails ends the delegate. -/
theorem runDelegate_forward (p : Exchange) (connection : Connection) (timeout : Double)
    (child next : Delegate) (seat : Seat)
    : p.runDelegate (.forward connection timeout child next) seat
      = match Message.newRef seat.reply p.state with
        | (.error e, state) =>
            (.failed e.message, { p with state }.leave (seat.learn (.failed e)))
        | (.ok m, state) =>
            match send { p with state } connection m timeout child with
            | (.ok _, q) => q.runDelegate next (seat.learn .done)
            | (.error e, q) => (.failed e.message, q.leave (seat.learn (.failed e))) := by
  rw [runDelegate, runBounded]
  split
  · simp_all
  · dsimp only
    split <;> simp_all [runDelegate, Bounded.raise]

end Custody.Exchange
