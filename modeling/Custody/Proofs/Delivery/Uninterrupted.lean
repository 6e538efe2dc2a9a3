import Custody.Dispatch.Steps
import Custody.Proofs.Delivery.Calls
import Mathlib.Logic.Relation

/-! A thread that nobody interrupts. Step after step its calls do to the exchange what the
operations do at once, and answer what they answer, at any depth of delegates that run inside
delegates.
-/

namespace Custody.Switchboard

variable (σ τ : Switchboard) (i : Nat)

@[simp]
theorem state_put (p : Exchange)
    : (σ.put i p).state i = p.state := by
  simp [state, put, putState]

@[simp]
theorem exchange_put (p : Exchange)
    : (σ.put i p).exchange i = p := by
  rw [exchange, state_put]
  rfl

@[simp]
theorem put_put (p q : Exchange)
    : (σ.put i p).put i q = σ.put i q := by
  simp only [put, putState, Switchboard.mk.injEq, and_true]
  funext j
  split <;> rfl

@[simp]
theorem put_exchange
    : σ.put i (σ.exchange i) = σ := by
  simp only [put, putState, exchange, state]
  congr 1
  funext j
  split
  · next same => rw [same]
  · rfl

@[simp]
theorem exchange_state
    : (σ.exchange i).state = σ.state i :=
  rfl

@[simp]
theorem exchange_delegates
    : (σ.exchange i).delegates = σ.delegates :=
  rfl

@[simp]
theorem state_push (f : Frame)
    : (σ.push i f).state i = σ.state i :=
  rfl

@[simp]
theorem exchange_push (f : Frame)
    : (σ.push i f).exchange i = σ.exchange i :=
  rfl

/-- A table that changed is an exchange that changed. -/
theorem with_delegates (r : Registry)
    : { σ with delegates := r } = σ.put i { σ.exchange i with delegates := r } :=
  congrArg (fun τ : Switchboard => { τ with delegates := r }) (σ.put_exchange i).symm

@[simp]
theorem record_nil
    : σ.record [] = σ := by
  simp [record]

/-- The delegate below hears what the call above it answers, if the call is not a native one. -/
theorem answer_push (f : Frame) (native : Bool) (a : Except BusError Answer)
    : (σ.push i f).answer i { inText := true, native } a
      = σ.push i (f.hear (if native then .ok .done else a)) := by
  simp [answer]

-----------------------------------------------------------------------------------------
-- Runs of one thread
-----------------------------------------------------------------------------------------

/-- The calls of a thread, on their own, lead from one switchboard to another. -/
def Leads : Prop :=
  Relation.ReflTransGen (fun σ τ : Switchboard => σ.advance i = τ) σ τ

variable {σ τ i}

/-- What the calls of a thread lead to is reached by steps of that thread, by induction on the
steps.
-/
theorem Leads.run (leads : σ.Leads τ i)
    : ∃ n, σ.run (List.replicate n (i, .advance)) = τ := by
  induction leads using Relation.ReflTransGen.head_induction_on with
  | refl => exact ⟨0, rfl⟩
  | head step _ ih =>
      obtain ⟨n, reached⟩ := ih
      exact ⟨n + 1, by rw [← reached, ← step]; rfl⟩

/-- A call that began as `begun` ends with the exchange `p` and an answer, and leaves the calls
below it, those of `σ`, to hear the answer. The record grows.
-/
def Completes (begun σ : Switchboard) (i : Nat) (k : Asker) (p : Exchange)
    (a : Except BusError Answer) : Prop :=
  ∃ deeds, begun.Leads (((σ.put i p).record deeds).answer i k a) i

variable {begun : Switchboard} {k : Asker} {p q : Exchange} {a b : Except BusError Answer}

/-- A call that is over at once. -/
theorem Completes.at_once (p : Exchange) (deeds : List Deed)
    : Completes (((σ.put i p).record deeds).answer i k a) σ i k p a :=
  ⟨deeds, .refl⟩

/-- A call that only has its answer left to give. -/
theorem Completes.answered (p : Exchange)
    : Completes ((σ.put i p).answer i k a) σ i k p a := by
  simpa only [record_nil] using at_once p []

/-- A step that is taken goes first. -/
theorem Completes.head {next : Switchboard} (step : begun.advance i = next)
    (rest : Completes next σ i k p a)
    : Completes begun σ i k p a :=
  rest.imp fun _ leads => .head step leads

/-- What is left to do after the exchange changed. -/
theorem Completes.after_put (q : Exchange) (rest : Completes begun (σ.put i q) i k p a)
    : Completes begun σ i k p a := by
  simpa only [Completes, put_put] using rest

/-- What is left to do after something was recorded. -/
theorem Completes.after_record (deeds : List Deed)
    (rest : Completes begun (σ.record deeds) i k p a)
    : Completes begun σ i k p a := by
  obtain ⟨more, leads⟩ := rest
  refine ⟨deeds ++ more, ?_⟩
  rw [record_append]
  exact leads

/-- A delegate goes on with the answer of the call above it. -/
theorem Completes.heard {f : Frame} {native : Bool}
    (inner : Completes begun (σ.push i f) i { inText := true, native } q b)
    (rest : ∀ τ, τ.exchange i = q →
      Completes (τ.push i (f.hear (if native then .ok .done else b))) τ i k p a)
    : Completes begun σ i k p a := by
  obtain ⟨deeds, leads⟩ := inner
  have later := rest ((σ.put i q).record deeds) (exchange_put σ i q)
  rw [← answer_push] at later
  exact .after_put q (.after_record deeds (later.imp fun _ => leads.trans))

-----------------------------------------------------------------------------------------
-- Registration and sends
-----------------------------------------------------------------------------------------

variable (σ i k)

/-- A registration that has its token puts its delegate into the table. -/
theorem advance_registering (t : Token) (d : Delegate)
    : (σ.push i (.registering k t d none)).advance i
      = ((σ.put i { σ.exchange i with delegates := σ.delegates.enlist t d }).record
          [.token (.enlisted t d)]).answer i k (.ok (.token t)) := by
  rw [← with_delegates, advance, top_push]
  exact congrArg (fun τ : Switchboard =>
    ({ τ with delegates := σ.delegates.enlist t d }.record [.token (.enlisted t d)]).answer i k
      (.ok (.token t))) (pop_push σ i _)

/-- A registration is two steps, and one call of the table. -/
theorem completes_register (d : Delegate)
    : Completes (σ.register i k d none) σ i k
        { σ.exchange i with delegates := (σ.delegates.register d).2 }
        (.ok (.token (σ.delegates.register d).1)) := by
  refine .after_put { σ.exchange i with delegates := σ.delegates.reserve.2 }
    (.after_record [.token (.reserved σ.delegates.reserve.1)] ?_)
  rw [← with_delegates, Registry.register_eq]
  exact .head (advance_registering _ i k _ d) (.at_once _ _)

/-- A registration for a message that is to be sent lets its delegate wait. -/
theorem advance_registering_post (t : Token) (d : Delegate) (post : Posting)
    : (σ.push i (.registering k t d (some post))).advance i
      = ({ σ with delegates := σ.delegates.enlist t d }.record
          [.token (.enlisted t d)]).push i (.posting k t d post) := by
  rw [advance, top_push]
  exact replace_push ({ σ with delegates := σ.delegates.enlist t d }.record
    [.token (.enlisted t d)]) i _ _

/-- The native side refuses a message. -/
theorem advance_posting_refused (t : Token) (d : Delegate) {post : Posting} {s : State}
    (refused : (σ.state i).sendNative post.connection post.message t post.timeout = (none, s))
    : (σ.push i (.posting k t d post)).advance i = (σ.putState i s).push i (.refused k t) := by
  rw [advance, top_push]
  dsimp only
  rw [state_push, refused]
  exact replace_push (σ.putState i s) i _ _

/-- A send that was refused takes its token out of the table again, and answers. -/
theorem advance_refused (t : Token)
    : (σ.push i (.refused k t)).advance i
      = ((σ.put i { σ.exchange i with
            state := (σ.state i).note .sendFailed, delegates := σ.delegates.erase t }).record
          (TableAct.deeds σ.delegates (.remove t))).answer i k (.error .send) := by
  rw [advance, top_push]
  simp only [pop_push]
  rfl

/-- A send that the native side refused takes its token out of the table again. -/
theorem completes_refused (t : Token)
    : Completes (σ.push i (.refused k t)) σ i k
        { σ.exchange i with
          state := (σ.state i).note .sendFailed, delegates := σ.delegates.erase t }
        (.error .send) :=
  .head (advance_refused σ i k t) (.at_once _ _)

/-- A send whose delegate waits calls the native side. -/
theorem completes_posting (t : Token) (d : Delegate) (post : Posting) {s : State}
    {call : Option (Ref Native.PendingCall)}
    (answered : (σ.state i).sendNative post.connection post.message t post.timeout = (call, s))
    : Completes (σ.push i (.posting k t d post)) σ i k
        (if call.isSome then { σ.exchange i with state := s.note .sent }
          else { σ.exchange i with
            state := s.note .sendFailed, delegates := σ.delegates.erase t })
        (if call.isSome then .ok .done else .error .send) := by
  cases call with
  | some call =>
      have step : (σ.push i (.posting k t d post)).advance i
          = ((σ.put i { σ.exchange i with state := s.note .sent }).record
              [.sent (σ.sending t d post call)]).answer i k (.ok .done) := by
        rw [advance, top_push]
        simp only [pop_push]
        rw [state_push, answered]
        rfl
      exact .head step (.at_once _ _)
  | none =>
      have rest := completes_refused (σ.put i { σ.exchange i with state := s }) i k t
      rw [state_put, exchange_put] at rest
      exact .head (advance_posting_refused σ i k t d answered)
        (.after_put { σ.exchange i with state := s } rest)

/-- A registration for a message that is to be sent goes on to the native side. -/
theorem completes_register_post (d : Delegate) (post : Posting) {s : State}
    {call : Option (Ref Native.PendingCall)}
    (answered : (σ.state i).sendNative post.connection post.message (σ.delegates.register d).1
      post.timeout = (call, s))
    : Completes (σ.register i k d (some post)) σ i k
        (if call.isSome then { σ.exchange i with
            state := s.note .sent, delegates := (σ.delegates.register d).2 }
          else { σ.exchange i with
            state := s.note .sendFailed
            delegates := (σ.delegates.register d).2.erase (σ.delegates.register d).1 })
        (if call.isSome then .ok .done else .error .send) := by
  let t := σ.delegates.reserve.1
  let reserved : Switchboard :=
    { σ with delegates := σ.delegates.reserve.2 }.record [.token (.reserved t)]
  let enlisted : Switchboard :=
    { reserved with delegates := (σ.delegates.register d).2 }.record [.token (.enlisted t d)]
  have rest := completes_posting enlisted i k t d post answered
  refine .head (advance_registering_post reserved i k t d post) ?_
  refine .after_put { σ.exchange i with delegates := (σ.delegates.register d).2 } ?_
  rw [← with_delegates]
  exact .after_record [.token (.reserved t)] (.after_record [.token (.enlisted t d)] rest)

/-- A send is steps of its own. -/
theorem completes_send (c : Connection) (m : Message) (timeout : Double) (d : Delegate)
    : Completes (σ.send i k c m timeout d) σ i k
        ((σ.exchange i).send c m timeout d).2
        (((σ.exchange i).send c m timeout d).1.map fun _ => .done) := by
  unfold send Exchange.send
  rw [exchange_state]
  rcases (σ.state i).live c.raw with ⟨e | line, s⟩
  · exact .answered { σ.exchange i with state := m.drop s }
  · dsimp only
    rcases s.live m.raw with ⟨e | r, s⟩
    · exact .answered { σ.exchange i with state := m.drop s }
    · dsimp only
      generalize (if m.own then s else s.addRef r) = s
      rcases answered : s.sendNative line r (σ.delegates.register d).1 timeout with ⟨call, s'⟩
      let lent := (σ.put i { σ.exchange i with state := s }).record [.handedOut r]
      have state_lent : lent.state i = s := σ.state_put i _
      have accepted
          : (lent.state i).sendNative line r (lent.delegates.register d).1 timeout
            = (call, s') := by
        rw [state_lent]
        exact answered
      have sent := completes_register_post lent i k d ⟨line, r, timeout⟩ accepted
      have rest : Completes (lent.register i k d (some ⟨line, r, timeout⟩)) σ i k _ _ :=
        .after_put { σ.exchange i with state := s } (.after_record [.handedOut r] sent)
      rw [exchange_delegates, answered]
      cases call with
      | some call => exact rest
      | none => exact rest

-----------------------------------------------------------------------------------------
-- Dispatch, and the delegates it runs
-----------------------------------------------------------------------------------------

/-- On a thread that works on an exchange, a delegate does step by step what its run does at once,
and then answers.
-/
def RunsToEnd (p : Exchange) (i : Nat) (d : Delegate) : Prop :=
  ∀ (σ : Switchboard) (k : Asker) (t : Token) (seat : Seat), σ.exchange i = p →
    let ran := p.runDelegate d seat
    Completes (σ.push i (.running k t d seat)) σ i k (ran.2.settle ran.1).2
      (.ok (.outcome (ran.2.settle ran.1).1))

/-- A delegate whose acts are over drops its reply and reports. -/
theorem completes_ended (t : Token) (how : Ended) (seat : Seat)
    : Completes (σ.push i (.ended k t how seat)) σ i k
        (((σ.exchange i).leave seat).settle how).2
        (.ok (.outcome (((σ.exchange i).leave seat).settle how).1)) := by
  let p := (((σ.exchange i).leave seat).settle how).2
  have step
      : (σ.push i (.ended k t how seat)).advance i
        = (σ.put i p).answer i k
            (.ok (.outcome (((σ.exchange i).leave seat).settle how).1)) := by
    rw [advance, top_push]
    simp only [pop_push]
    rfl
  exact .head step (.answered p)

/-- A dispatch runs what it finds, given that this ends. -/
theorem completes_dispatch_of (t : Token) (m : Option (Ref Native.Message))
    (c : Option (Ref Native.PendingCall))
    (ends : ∀ d delegates, σ.delegates.take? t = some (d, delegates) →
      RunsToEnd { σ.exchange i with delegates } i d)
    : Completes (σ.dispatch i k t m c) σ i k ((σ.exchange i).dispatch t m c).2
        (.ok (.outcome ((σ.exchange i).dispatch t m c).1)) := by
  unfold dispatch
  rcases taken : σ.delegates.take? t with _ | ⟨d, delegates⟩
  · rw [Exchange.dispatch_of_take?_none (p := σ.exchange i) m c taken]
    exact .answered ((σ.exchange i).note .unknownDelegate)
  · have null_case (null : m = none ∨ c = none)
        : Completes (((({ σ with delegates }.record [.token (.rejected t)]).putState i
            ((σ.state i).note .nullReply)).answer i k (.ok (.outcome .badHandles)))) σ i k
          ((σ.exchange i).dispatch t m c).2
          (.ok (.outcome ((σ.exchange i).dispatch t m c).1)) := by
      rw [Exchange.dispatch_of_null (p := σ.exchange i) taken null]
      exact .at_once ({ σ.exchange i with delegates }.note .nullReply) [.token (.rejected t)]
    rcases m with _ | m
    · exact null_case (.inl rfl)
    · rcases c with _ | c
      · exact null_case (.inr rfl)
      · rw [Exchange.dispatch_of_take?_some (p := σ.exchange i) m c taken]
        have ran := ends d delegates taken
          ({ σ with delegates }.record [.token (.invoked t d (Seat.start m c))]) k t
          (Seat.start m c) rfl
        refine .after_put { σ.exchange i with delegates } ?_
        rw [← with_delegates]
        exact .after_record [.token (.invoked t d (Seat.start m c))] ran

/-- A running delegate follows its text. -/
theorem advance_running (t : Token) (d : Delegate) (seat : Seat)
    : (σ.push i (.running k t d seat)).advance i
      = (σ.push i (.running k t d seat)).follow i k t seat d := by
  rw [advance, top_push]

section

variable {i} {f : Frame} {next : Delegate}

/-- A delegate whose step changed the exchange runs on from there. -/
theorem RunsToEnd.goes_on (runs : RunsToEnd q i next) (t : Token) (seat : Seat)
    (deeds : List Deed)
    (step
      : (σ.push i f).advance i = ((σ.put i q).record deeds).push i (.running k t next seat))
    : let ran := q.runDelegate next seat
      Completes (σ.push i f) σ i k (ran.2.settle ran.1).2
        (.ok (.outcome (ran.2.settle ran.1).1)) :=
  .head step (.after_put q (.after_record deeds (runs _ k t seat (exchange_put σ i q))))

/-- A delegate whose step failed drops its reply and reports. -/
theorem Completes.ends (t : Token) (how : Ended) (seat : Seat) (q : Exchange)
    (deeds : List Deed)
    (step : (σ.push i f).advance i = ((σ.put i q).record deeds).push i (.ended k t how seat))
    : Completes (σ.push i f) σ i k ((q.leave seat).settle how).2
        (.ok (.outcome ((q.leave seat).settle how).1)) := by
  have same : ((σ.put i q).record deeds).exchange i = q := exchange_put σ i q
  have rest := completes_ended ((σ.put i q).record deeds) i k t how seat
  rw [same] at rest
  exact .head step (.after_put q (.after_record deeds rest))

theorem runsToEnd_finish (p : Exchange) (i : Nat) (ending : Ending)
    : RunsToEnd p i (.finish ending) := by
  rintro σ k t seat rfl
  rw [Exchange.runDelegate_finish]
  refine .head ?_ (completes_ended σ i k t ending.ended seat)
  rw [advance_running]
  exact replace_push σ i _ _

theorem RunsToEnd.act (act : Act) (runs : ∀ state, RunsToEnd { p with state } i next)
    : RunsToEnd p i (.act act next) := by
  rintro σ k t seat rfl
  rw [Exchange.runDelegate_act, exchange_state]
  rcases performed : seat.perform (σ.state i) act with ⟨e | a, after, state⟩
  · refine .ends σ k t _ _ { σ.exchange i with state } (act.deeds seat.reply) ?_
    rw [advance_running, follow, state_push, performed]
    exact replace_push ((σ.putState i state).record _) i _ _
  · refine (runs state).goes_on σ k t _ (act.deeds seat.reply) ?_
    rw [advance_running, follow, state_push, performed]
    exact replace_push ((σ.putState i state).record _) i _ _

theorem RunsToEnd.table (act : TableAct)
    (runs : RunsToEnd { p with delegates := (p.delegates.perform act).2 } i next)
    : RunsToEnd p i (.table act next) := by
  rintro σ k t seat rfl
  rw [Exchange.runDelegate_table]
  refine runs.goes_on σ k t _ (act.deeds σ.delegates) ?_
  rw [advance_running, exchange_delegates, ← with_delegates]
  exact replace_push (σ.tableAct act) i _ _

theorem RunsToEnd.register (child : Delegate)
    (runs : RunsToEnd { p with delegates := (p.delegates.register child).2 } i next)
    : RunsToEnd p i (.register child next) := by
  rintro σ k t seat rfl
  rw [Exchange.runDelegate_register]
  refine .head (advance_running σ i k t _ seat) ?_
  rw [follow, replace_push]
  exact .heard (completes_register _ i { inText := true } child) fun τ same =>
    runs τ k t _ same

/-- What a dispatch finds runs inside, and then the delegate that asked for it runs on. -/
theorem RunsToEnd.dispatch (u : Token)
    (ends : ∀ d delegates, p.delegates.take? u = some (d, delegates) →
      RunsToEnd { p with delegates } i d)
    (runs : ∀ m c, RunsToEnd (p.dispatch u m c).2 i next)
    : RunsToEnd p i (.dispatch u next) := by
  rintro σ k t seat rfl
  rw [Exchange.runDelegate_dispatch]
  refine .head (advance_running σ i k t _ seat) ?_
  rw [follow, replace_push]
  exact .heard (completes_dispatch_of _ i _ u _ _ ends) fun τ same => runs _ _ τ k t _ same

theorem RunsToEnd.callback (u : Token)
    (ends : ∀ d delegates, p.delegates.take? u = some (d, delegates) →
      RunsToEnd { p with delegates } i d)
    (runs : ∀ m c, RunsToEnd (p.dispatch u m c).2 i next)
    : RunsToEnd p i (.callback u next) := by
  rintro σ k t seat rfl
  rw [Exchange.runDelegate_callback]
  refine .head (advance_running σ i k t _ seat) ?_
  rw [follow, replace_push]
  exact .heard (completes_dispatch_of _ i _ u _ _ ends) fun τ same => runs _ _ τ k t _ same

/-- A reply is sent on under a reference of its own, and a send that fails ends the delegate. -/
theorem RunsToEnd.forward (c : Connection) (timeout : Double) (child : Delegate)
    (runs
      : ∀ state m call q,
          Exchange.send { p with state } c m timeout child = (.ok call, q)
          → RunsToEnd q i next)
    : RunsToEnd p i (.forward c timeout child next) := by
  rintro σ k t seat rfl
  rw [Exchange.runDelegate_forward, exchange_state]
  rcases made : Message.newRef seat.reply (σ.state i) with ⟨e | m, state⟩
  · refine .ends σ k t _ _ { σ.exchange i with state } [] ?_
    rw [advance_running, follow, state_push, made, record_nil]
    exact replace_push (σ.putState i state) i _ _
  · let q : Exchange := { σ.exchange i with state }
    have sending := completes_send ((σ.put i q).push i (.running k t next seat)) i
      { inText := true } c m timeout child
    rw [exchange_push, exchange_put] at sending
    have step
        : (σ.push i (.running k t (.forward c timeout child next) seat)).advance i
          = ((σ.put i q).push i (.running k t next seat)).send i { inText := true } c m timeout
              child := by
      rw [advance_running, follow, state_push, made]
      exact congrArg (fun τ : Switchboard => τ.send i { inText := true } c m timeout child)
        (replace_push (σ.put i q) i _ _)
    refine .head step (.after_put q (.heard sending fun τ same => ?_))
    dsimp only
    rcases sent : q.send c m timeout child with ⟨e | call, after⟩
    · rw [sent] at same
      subst same
      exact completes_ended τ i k t _ _
    · rw [sent] at same
      exact runs state m call after sent τ k t _ same

end

/-- A delegate runs to its end, by induction on the steps that it and the waiting delegates can
still take.
-/
theorem runsToEnd (bound : Nat) : ∀ (p : Exchange) (d : Delegate),
    p.weight + d.weight ≤ bound → RunsToEnd p i d := by
  induction bound with
  | zero =>
      intro p d light
      cases d <;> simp [Delegate.weight] at light
  | succ bound ih =>
      intro p d light
      have ends {u : Token} (spare : p.weight ≤ bound) (d : Delegate) (delegates : Registry)
          (taken : p.delegates.take? u = some (d, delegates))
          : RunsToEnd { p with delegates } i d :=
        ih _ d (Nat.le_trans (Registry.weight_take?_le taken) spare)
      cases d with
      | finish ending => exact runsToEnd_finish p i ending
      | act act next =>
          refine .act act fun state => ih _ next ?_
          exact Nat.le_of_succ_le_succ light
      | table act next =>
          have lighter := p.delegates.weight_perform_le act
          refine .table act (ih _ next ?_)
          simp only [Exchange.weight, Delegate.weight] at light ⊢
          omega
      | register child next =>
          have grown := p.delegates.weight_register_le child
          refine .register child (ih _ next ?_)
          simp only [Exchange.weight, Delegate.weight] at light ⊢
          omega
      | dispatch u next =>
          have left : p.weight + next.weight ≤ bound := Nat.le_of_succ_le_succ light
          refine .dispatch u (ends (Nat.le_of_add_right_le left)) fun m c => ih _ next ?_
          exact Nat.le_trans (Nat.add_le_add_right (p.weight_dispatch_le u m c) _) left
      | callback u next =>
          have left : p.weight + next.weight ≤ bound := Nat.le_of_succ_le_succ light
          refine .callback u (ends (Nat.le_of_add_right_le left)) fun m c => ih _ next ?_
          exact Nat.le_trans (Nat.add_le_add_right (p.weight_dispatch_le u m c) _) left
      | forward c timeout child next =>
          refine .forward c timeout child fun state m call q sent => ih q next ?_
          have grown := Exchange.weight_of_send { p with state } sent
          simp only [Exchange.weight, Delegate.weight] at light grown ⊢
          omega

/-- A dispatch that nobody interrupts does what it does at once, and answers the same, whatever runs
inside it.
-/
theorem completes_dispatch (t : Token) (m : Option (Ref Native.Message))
    (c : Option (Ref Native.PendingCall))
    : Completes (σ.dispatch i k t m c) σ i k ((σ.exchange i).dispatch t m c).2
        (.ok (.outcome ((σ.exchange i).dispatch t m c).1)) :=
  completes_dispatch_of σ i k t m c fun d _ _ => runsToEnd i _ _ d (Nat.le_refl _)

@[simp]
theorem exchange_answer (σ : Switchboard) (i : Nat) (k : Asker) (a : Except BusError Answer)
    : (σ.answer i k a).exchange i = σ.exchange i := by
  rcases σ.answer_cases i k a with ⟨f, b, _, eq⟩ | eq | ⟨b, eq⟩ <;> rw [eq] <;> rfl

variable {σ i} in
/-- A call of other code that nobody interrupts: after some steps of its thread the exchange is
what it should be, no more calls are open than before, and the last thing on record is the answer.
-/
theorem Completes.run {native : Bool}
    (done : Completes begun σ i { inText := false, native } p a)
    : ∃ n τ, begun.run (List.replicate n (i, .advance)) = τ
      ∧ τ.exchange i = p ∧ τ.calls = σ.calls
      ∧ τ.history.getLast? = some (.answered i (if native then .ok .done else a)) := by
  obtain ⟨deeds, leads⟩ := done
  obtain ⟨n, reached⟩ := leads.run
  refine ⟨n, _, reached, ?_, rfl, by simp [answer, record]⟩
  rw [exchange_answer]
  exact exchange_put σ i p

/-- A delivery that nobody interrupts leaves what the delivery at once leaves. -/
theorem deliver_uninterrupted {c : Ref Native.Connection} {place : Nat}
    {m : Option (Ref Native.Message)}
    (delivered : (σ.exchange i).deliver c place m = some p)
    : ∃ n, (σ.run ((i, .deliver c place m) :: List.replicate n (i, .advance))).exchange i = p := by
  obtain ⟨sent, there, rfl⟩ := Option.map_eq_some_iff.1 delivered
  have begun : σ.move i (.deliver c place m)
      = σ.dispatch i { inText := false, native := true } sent.token m (some sent.call) := by
    rw [move, show ((σ.state i).connection c).sent[place]? = some sent from there]
  obtain ⟨n, _, rfl, same, -, -⟩ :=
    (completes_dispatch σ i { inText := false, native := true } sent.token m (some sent.call)).run
  exact ⟨n, by rw [← begun] at same; exact same⟩

end Custody.Switchboard
