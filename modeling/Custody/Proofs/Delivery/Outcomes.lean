import Custody.Proofs.Delivery.Accounts
import Custody.Proofs.Delivery.Routing
import Custody.Proofs.Delivery.Uninterrupted

/-! What a dispatch answers. A delegate that is found runs once, and the outcome tells how it ended,
by its text and by what its own acts answered. What runs inside it can fail or panic as it likes: the
delegate learns the outcome, and goes on.
-/

namespace Custody

/-- The outcome of a dispatch whose delegate ended. -/
def Ended.outcome : Ended → Dispatch
  | ok => .delivered
  | failed _ => .delegateFailed
  | panicked => .delegatePanicked

theorem Ended.outcome_ne_unknownDelegate (how : Ended)
    : how.outcome ≠ .unknownDelegate := by
  cases how <;> nofun

-----------------------------------------------------------------------------------------
-- How a delegate ends
-----------------------------------------------------------------------------------------

/-- How a delegate ends that learnt certain answers. An act of its own that fails ends it with the
error, and so does a send. Otherwise it ends as its text says, whatever the outcomes of the
dispatches inside it.
-/
inductive Delegate.Ends : Delegate → List Answer → Ended → Prop
  | finish (ending : Ending)
    : Ends (.finish ending) [] ending.ended
  | act {act : Act} {next : Delegate} {a : Answer} {learnt : List Answer} {how : Ended}
      (passed : ∀ e, a ≠ .failed e) (rest : Ends next learnt how)
    : Ends (.act act next) (a :: learnt) how
  | actFailed (act : Act) (next : Delegate) (e : BusError)
    : Ends (.act act next) [.failed e] (.failed e.message)
  | table {act : TableAct} {next : Delegate} {learnt : List Answer} {how : Ended} (a : Answer)
      (rest : Ends next learnt how)
    : Ends (.table act next) (a :: learnt) how
  | register {child next : Delegate} {learnt : List Answer} {how : Ended} (t : Token)
      (rest : Ends next learnt how)
    : Ends (.register child next) (.token t :: learnt) how
  | dispatch {t : Token} {next : Delegate} {learnt : List Answer} {how : Ended}
      (outcome : Dispatch) (rest : Ends next learnt how)
    : Ends (.dispatch t next) (.outcome outcome :: learnt) how
  | callback {t : Token} {next : Delegate} {learnt : List Answer} {how : Ended}
      (rest : Ends next learnt how)
    : Ends (.callback t next) (.done :: learnt) how
  | forward {c : Connection} {timeout : Double} {child next : Delegate} {learnt : List Answer}
      {how : Ended} (rest : Ends next learnt how)
    : Ends (.forward c timeout child next) (.done :: learnt) how
  | forwardFailed (c : Connection) (timeout : Double) (child next : Delegate) (e : BusError)
    : Ends (.forward c timeout child next) [.failed e] (.failed e.message)

/-- The answers that a delegate learnt settle how it ended, by induction on its text. -/
theorem Delegate.Ends.unique {d : Delegate} {learnt : List Answer} {how how' : Ended}
    (ends : d.Ends learnt how) (ends' : d.Ends learnt how')
    : how = how' := by
  induction ends with
  | finish => cases ends'; rfl
  | act passed _ ih =>
      cases ends' with
      | act _ rest => exact ih rest
      | actFailed => exact absurd rfl (passed _)
  | actFailed act next e =>
      cases ends' with
      | act passed _ => exact absurd rfl (passed e)
      | actFailed => rfl
  | table _ _ ih | register _ _ ih | dispatch _ _ ih | callback _ ih =>
      cases ends' with
      | _ => exact ih ‹_›
  | forward _ ih =>
      cases ends' with
      | forward rest => exact ih rest
  | forwardFailed =>
      cases ends' with
      | forwardFailed => rfl

namespace Exchange

variable (p : Exchange)

@[simp]
theorem settle_outcome (how : Ended)
    : (p.settle how).1 = how.outcome := by
  cases how <;> rfl

theorem reports_send (c : Connection) (m : Message) (timeout : Double) (d : Delegate)
    : (p.send c m timeout d).2.reports = p.reports := by
  unfold send
  split
  · rfl
  · split
    · rfl
    · dsimp only
      split <;> rfl

-----------------------------------------------------------------------------------------
-- Runs
-----------------------------------------------------------------------------------------

/-- A run of a delegate leaves its report last, after those of the runs inside it, and the report
settles how it ended.
-/
def Tells (d : Delegate) : Prop :=
  ∀ seat : Seat, ∃ inner learnt,
    (p.runDelegate d seat).2.reports = p.reports ++ inner ++ [seat.answers ++ learnt]
    ∧ d.Ends learnt (p.runDelegate d seat).1

variable {p} {q : Exchange} {next : Delegate}

/-- A dispatch only adds reports, given that the delegate it finds does. -/
theorem reports_dispatch (t : Token) (m : Option (Ref Native.Message))
    (c : Option (Ref Native.PendingCall))
    (tells
      : ∀ d delegates,
          p.delegates.take? t = some (d, delegates)
          → Tells { p with delegates } d)
    : ∃ inner, (p.dispatch t m c).2.reports = p.reports ++ inner := by
  rcases taken : p.delegates.take? t with _ | ⟨d, delegates⟩
  · exact ⟨[], by rw [dispatch_of_take?_none m c taken, List.append_nil]; rfl⟩
  · have null (none : m = none ∨ c = none)
        : ∃ inner, (p.dispatch t m c).2.reports = p.reports ++ inner :=
      ⟨[], by rw [dispatch_of_null taken none, List.append_nil]; rfl⟩
    rcases m with _ | m
    · exact null (.inl rfl)
    · rcases c with _ | c
      · exact null (.inr rfl)
      · obtain ⟨inner, learnt, reports, _⟩ := tells d delegates taken (Seat.start m c)
        rw [dispatch_of_take?_some m c taken, reports_settle, reports, List.append_assoc]
        exact ⟨_, rfl⟩

/-- A delegate whose step is done tells the answer first, and then what it tells from there. -/
theorem tells_next {d : Delegate} {seat after : Seat} {a : Answer}
    (step : p.runDelegate d seat = q.runDelegate next (after.learn a))
    (same : after.answers = seat.answers) (more : ∃ inner, q.reports = p.reports ++ inner)
    (ends : ∀ {learnt how}, next.Ends learnt how → d.Ends (a :: learnt) how)
    (tells : q.Tells next)
    : ∃ inner learnt,
        (p.runDelegate d seat).2.reports = p.reports ++ inner ++ [seat.answers ++ learnt]
        ∧ d.Ends learnt (p.runDelegate d seat).1 := by
  obtain ⟨before, grown⟩ := more
  obtain ⟨inner, learnt, reports, rest⟩ := tells (after.learn a)
  rw [step]
  refine ⟨before ++ inner, a :: learnt, ?_, ends rest⟩
  rw [reports, grown, Seat.learn, same]
  simp only [List.append_assoc, List.singleton_append]

/-- A delegate whose act fails tells the error last. -/
theorem tells_failed {d : Delegate} {seat after : Seat} {e : BusError}
    (step : p.runDelegate d seat = (.failed e.message, q.leave (after.learn (.failed e))))
    (same : after.answers = seat.answers) (reports : q.reports = p.reports)
    (ends : d.Ends [.failed e] (.failed e.message))
    : ∃ inner learnt,
        (p.runDelegate d seat).2.reports = p.reports ++ inner ++ [seat.answers ++ learnt]
        ∧ d.Ends learnt (p.runDelegate d seat).1 := by
  rw [step]
  refine ⟨[], [.failed e], ?_, ends⟩
  rw [leave, Seat.learn, same, reports, List.append_nil]

/-- Every run tells how it ended, by induction on the steps that the delegate and those in the table
can still take.
-/
theorem tells (bound : Nat) : ∀ (p : Exchange) (d : Delegate),
    p.weight + d.weight ≤ bound → p.Tells d := by
  induction bound with
  | zero =>
      intro p d light
      cases d <;> simp [Delegate.weight] at light
  | succ bound ih =>
      intro p d light seat
      have inside (u : Token) (spare : p.weight ≤ bound)
          : ∃ inner,
              (p.dispatch u seat.reply.raw seat.call.raw).2.reports = p.reports ++ inner :=
        reports_dispatch u _ _ fun d _ taken =>
          ih _ d (Nat.le_trans (Registry.weight_take?_le taken) spare)
      have same : ∃ inner, p.reports = p.reports ++ inner := ⟨[], (List.append_nil _).symm⟩
      cases d with
      | finish ending =>
          rw [runDelegate_finish]
          exact ⟨[], [], by simp [leave], .finish ending⟩
      | act act next =>
          have acted := seat.acted_perform p.state act
          have step := p.runDelegate_act act next seat
          rcases performed : seat.perform p.state act with ⟨e | a, after, state⟩
          · rw [performed] at acted step
            exact tells_failed step acted.answers rfl (.actFailed act next e)
          · rw [performed] at acted step
            refine tells_next step acted.answers same (.act (acted.passed a rfl)) (ih _ next ?_)
            exact Nat.le_of_succ_le_succ light
      | table act next =>
          have lighter := p.delegates.weight_perform_le act
          refine tells_next (p.runDelegate_table act next seat) rfl same (.table _) (ih _ next ?_)
          simp only [Exchange.weight, Delegate.weight] at light ⊢
          omega
      | register child next =>
          have grown := p.delegates.weight_register_le child
          refine tells_next (p.runDelegate_register child next seat) rfl same (.register _)
            (ih _ next ?_)
          simp only [Exchange.weight, Delegate.weight] at light ⊢
          omega
      | dispatch u next =>
          have left : p.weight + next.weight ≤ bound := Nat.le_of_succ_le_succ light
          refine tells_next (p.runDelegate_dispatch u next seat) rfl
            (inside u (Nat.le_of_add_right_le left)) (.dispatch _) (ih _ next ?_)
          exact Nat.le_trans (Nat.add_le_add_right (p.weight_dispatch_le u _ _) _) left
      | callback u next =>
          have left : p.weight + next.weight ≤ bound := Nat.le_of_succ_le_succ light
          refine tells_next (p.runDelegate_callback u next seat) rfl
            (inside u (Nat.le_of_add_right_le left)) .callback (ih _ next ?_)
          exact Nat.le_trans (Nat.add_le_add_right (p.weight_dispatch_le u _ _) _) left
      | forward c timeout child next =>
          have step := p.runDelegate_forward c timeout child next seat
          rcases made : Message.newRef seat.reply p.state with ⟨e | m, state⟩
          · rw [made] at step
            exact tells_failed (q := { p with state }) step rfl rfl
              (.forwardFailed c timeout child next e)
          · have kept := reports_send { p with state } c m timeout child
            rw [made] at step
            rcases sent : send { p with state } c m timeout child with ⟨e | call, q⟩
            · simp only [sent] at step kept
              exact tells_failed step rfl kept (.forwardFailed c timeout child next e)
            · have grown := weight_of_send { p with state } sent
              simp only [sent] at step kept
              refine tells_next step rfl ⟨[], by rw [kept, List.append_nil]⟩ .forward
                (ih q next ?_)
              simp only [Exchange.weight, Delegate.weight] at light grown ⊢
              omega

/-- What is found for two live pointers runs, and tells how it ended. -/
theorem dispatch_found {t : Token} {d : Delegate} {delegates : Registry}
    (taken : p.delegates.take? t = some (d, delegates)) (r : Ref Native.Message)
    (h : Ref Native.PendingCall)
    : let ran := runDelegate { p with delegates } d (Seat.start r h)
      let out := p.dispatch t (some r) (some h)
      out = (ran.1.outcome, (ran.2.settle ran.1).2)
      ∧ out.2.delegates = ran.2.delegates
      ∧ ∃ inner learnt,
        ran.2.reports = p.reports ++ inner ++ [learnt]
        ∧ ∀ how, d.Ends learnt how ↔ how = ran.1 := by
  dsimp only
  obtain ⟨inner, learnt, reports, ends⟩ := tells _ _ d (Nat.le_refl _) (Seat.start r h)
  rw [dispatch_of_take?_some r h taken]
  refine ⟨Prod.ext (settle_outcome _ _) rfl, delegates_settle _ _, inner, learnt, reports,
    fun how => ⟨fun other => other.unique ends, ?_⟩⟩
  rintro rfl
  exact ends

/-- Whatever is found has another outcome than what is not. -/
theorem dispatch_unknown_iff (p : Exchange) (t : Token) (m : Option (Ref Native.Message))
    (c : Option (Ref Native.PendingCall))
    : (p.dispatch t m c).1 = .unknownDelegate ↔ p.delegates.take? t = none := by
  rcases taken : p.delegates.take? t with _ | ⟨d, delegates⟩
  · rw [dispatch_of_take?_none m c taken]
    exact ⟨fun _ => rfl, fun _ => rfl⟩
  · refine ⟨fun unknown => ?_, nofun⟩
    rcases m with _ | m
    · rw [dispatch_of_null taken (.inl rfl)] at unknown
      cases unknown
    · rcases c with _ | c
      · rw [dispatch_of_null taken (.inr rfl)] at unknown
        cases unknown
      · rw [(dispatch_found taken m c).1] at unknown
        exact absurd unknown (Ended.outcome_ne_unknownDelegate _)

end Exchange

namespace Registry

variable {r : Registry} {t : Token}

/-- Nothing is taken under the token zero, or under one that is not there. -/
theorem take?_eq_none_iff
    : r.take? t = none ↔ t = 0 ∨ r.contains t = false := by
  rw [← Bool.not_eq_true, contains_iff]
  constructor
  · intro none
    by_contra other
    obtain ⟨named, there⟩ := not_or.1 other
    obtain ⟨d, taken⟩ := take?_of_mem named (not_not.1 there)
    rw [none] at taken
    cases taken
  · rintro (rfl | absent)
    · rfl
    · exact take?_of_not_mem absent

theorem lookup_of_take? {rest : Registry} {d : Delegate} (taken : r.take? t = some (d, rest))
    : r.entries.lookup t = some d := by
  unfold take? at taken
  split at taken
  · cases taken
  · obtain ⟨d', found, eq⟩ := Option.map_eq_some_iff.1 taken
    rw [found, (Prod.mk.inj eq).1]

/-- A token that was erased is not there. -/
theorem contains_erase_self (r : Registry) (t : Token)
    : (r.erase t).contains t = false := by
  rw [← Bool.not_eq_true, contains_iff]
  intro there
  obtain ⟨e, member, same⟩ := List.mem_map.1 there
  have other := (List.mem_filter.1 member).2
  simp [same] at other

end Registry

namespace Switchboard

variable (σ : Switchboard) (i : Nat)

/-- The native side hears of no outcome. -/
theorem answer_native (inText : Bool) (a : Except BusError Answer)
    : σ.answer i { inText, native := true } a = σ.answer i { inText } (.ok .done) :=
  rfl

variable {σ} {t : Token} {d : Delegate} {delegates : Registry}

/-- A delegate that is found for two live pointers begins to run at once. Its token comes to run
again no more often than delegates are put into the table under it since.
-/
theorem invoked_once (taken : σ.delegates.take? t = some (d, delegates)) (k : Asker)
    (r : Ref Native.Message) (h : Ref Native.PendingCall) (es : List (Nat × Move))
    : ∃ more,
        ((σ.dispatch i k t (some r) (some h)).run es).tokenDeeds
          = σ.tokenDeeds ++ .invoked t d (Seat.start r h) :: more
        ∧ ((more.filterMap TokenDeed.invoked?).map (·.1)).count t
          ≤ ((more.filterMap TokenDeed.enlisted?).map (·.1)).count t := by
  obtain ⟨_, rfl⟩ := Registry.take?_eq_some taken
  let begun := σ.dispatch i k t (some r) (some h)
  have found
      : begun
        = ({ σ with delegates := σ.delegates.erase t }.record
            [.token (.invoked t d (Seat.start r h))]).push i
              (.running k t d (Seat.start r h)) := by
    simp only [begun]
    rw [dispatch, taken]
  have deeds : begun.tokenDeeds = σ.tokenDeeds ++ [.invoked t d (Seat.start r h)] := by
    rw [found]
    exact tokenDeeds_record _ _
  have absent : (begun.delegates.entries.map (·.1)).count t = 0 := by
    have gone := σ.delegates.contains_erase_self t
    rw [← Bool.not_eq_true, Registry.contains_iff] at gone
    rw [found]
    exact List.count_eq_zero.2 gone
  obtain ⟨more, accounts⟩ := accounts_run begun es
  have bound
      : ((more.filterMap TokenDeed.invoked?).map (·.1)).count t
        ≤ (begun.delegates.entries.map (·.1)).count t
          + ((more.filterMap TokenDeed.enlisted?).map (·.1)).count t :=
    accounts.countP_invoked_le (· == t)
  rw [absent, Nat.zero_add] at bound
  refine ⟨more, ?_, bound⟩
  rw [accounts.deeds, deeds, List.append_assoc]
  rfl

/-- A delegate that is found for a null pointer does not run. -/
theorem rejected_at_once (taken : σ.delegates.take? t = some (d, delegates))
    {m : Option (Ref Native.Message)} {c : Option (Ref Native.PendingCall)}
    (null : m = none ∨ c = none) (k : Asker)
    : (σ.dispatch i k t m c).tokenDeeds = σ.tokenDeeds ++ [.rejected t] := by
  let ρ := { σ with delegates }.record [.token (.rejected t)]
  have rejected
      : σ.dispatch i k t m c
        = (ρ.putState i ((σ.state i).note .nullReply)).answer i k (.ok (.outcome .badHandles)) := by
    rw [dispatch, taken]
    rcases null with rfl | rfl
    · rfl
    · cases m <;> rfl
  have same : (ρ.putState i ((σ.state i).note .nullReply)).tokenDeeds = ρ.tokenDeeds := rfl
  rw [rejected, tokenDeeds, told_answer _ i k _ fun _ _ => rfl]
  exact same.trans (tokenDeeds_record _ _)

/-- A dispatch answers that the delegate is unknown, and only notes it, exactly if its token is zero
or not in the table. Otherwise the token leaves the table. With a null pointer that is all; else the
delegate runs, once, and the outcome tells how it ended, which the answers to its own acts settle,
whatever came of the dispatches inside it. The table is the one that it left. A callback leaves the
same, and always answers normally.
-/
theorem dispatch_outcome_exact (σ : Switchboard) (i : Nat) (t : Token)
    (m : Option (Ref Native.Message)) (c : Option (Ref Native.PendingCall))
    : let p := σ.exchange i
      let out := p.dispatch t m c
      let q : Exchange := { p with delegates := p.delegates.erase t }
      (out.1 = .unknownDelegate ↔ t = 0 ∨ p.delegates.contains t = false)
      ∧ (t = 0 ∨ p.delegates.contains t = false → out.2 = p.note .unknownDelegate)
      ∧ (t ≠ 0 ∧ p.delegates.contains t = true
        → ∃ d,
          p.delegates.entries.lookup t = some d
          ∧ q.delegates.contains t = false
          ∧ (m = none ∨ c = none
            → out = (.badHandles, q.note .nullReply)
              ∧ ∀ k, (σ.dispatch i k t m c).tokenDeeds = σ.tokenDeeds ++ [.rejected t])
          ∧ ∀ r h,
            m = some r
            → c = some h
            → let ran := q.runDelegate d (Seat.start r h)
              out = (ran.1.outcome, (ran.2.settle ran.1).2)
              ∧ out.2.delegates = ran.2.delegates
              ∧ (∃ inner learnt,
                  ran.2.reports = p.reports ++ inner ++ [learnt]
                  ∧ ∀ how, d.Ends learnt how ↔ how = ran.1)
              ∧ ∀ k es,
                ∃ more,
                  ((σ.dispatch i k t m c).run es).tokenDeeds
                    = σ.tokenDeeds ++ .invoked t d (Seat.start r h) :: more
                  ∧ ((more.filterMap TokenDeed.invoked?).map (·.1)).count t
                    ≤ ((more.filterMap TokenDeed.enlisted?).map (·.1)).count t)
      ∧ ∀ inText,
        (∃ n deeds,
          (σ.dispatch i { inText } t m c).run (List.replicate n (i, .advance))
          = ((σ.put i out.2).record deeds).answer i { inText } (.ok (.outcome out.1)))
        ∧ ∃ n deeds,
          (σ.dispatch i { inText, native := true } t m c).run (List.replicate n (i, .advance))
          = ((σ.put i (p.callback t m c)).record deeds).answer i { inText } (.ok .done) := by
  dsimp only
  have completes (k : Asker)
      : ∃ n deeds,
          (σ.dispatch i k t m c).run (List.replicate n (i, .advance))
          = ((σ.put i ((σ.exchange i).dispatch t m c).2).record deeds).answer i k
              (.ok (.outcome ((σ.exchange i).dispatch t m c).1)) :=
    let ⟨deeds, leads⟩ := completes_dispatch σ i k t m c
    leads.run.imp fun _ reached => ⟨deeds, reached⟩
  refine ⟨?_, fun absent => ?_, fun there => ?_, fun inText => ?_⟩
  · rw [Exchange.dispatch_unknown_iff, Registry.take?_eq_none_iff]
  · have none := Registry.take?_eq_none_iff.2 absent
    rw [Exchange.dispatch_of_take?_none m c none]
  · obtain ⟨d, taken⟩ := Registry.take?_of_mem there.1 (Registry.contains_iff.1 there.2)
    refine ⟨d, Registry.lookup_of_take? taken, Registry.contains_erase_self _ t,
      fun null => ⟨Exchange.dispatch_of_null taken null, rejected_at_once i taken null⟩, ?_⟩
    rintro r h rfl rfl
    obtain ⟨answered, left, told⟩ := Exchange.dispatch_found taken r h
    exact ⟨answered, left, told, fun k => invoked_once i taken k r h⟩
  · have heard := completes { inText, native := true }
    simp only [answer_native] at heard
    exact ⟨completes { inText }, heard⟩

/-- The first delegate dispatches the second, which panics. -/
def sheltering : List (Nat × Move) :=
  [(0, .register (.dispatch 2 (.callback 2 (.finish .ok)))), (0, .advance),
    (0, .register (.finish .panic)), (0, .advance)]

theorem sheltering_outcome_exact
    : let p := ((start {} fun _ => {}).run sheltering).exchange 0
      (1 ≠ (0 : Token) ∧ p.delegates.contains 1 = true)
      ∧ (p.dispatch 1 (some ⟨0⟩) (some ⟨0⟩)).1 = .delivered := by
  have there
      : 1 ≠ (0 : Token)
        ∧ (((start {} fun _ => {}).run sheltering).exchange 0).delegates.contains 1 = true := by
    decide +kernel
  refine ⟨there, ?_⟩
  obtain ⟨d, found, _, _, live⟩ :=
    (dispatch_outcome_exact ((start {} fun _ => {}).run sheltering) 0 1 (some ⟨0⟩)
      (some ⟨0⟩)).2.2.1 there
  obtain rfl : .dispatch 2 (.callback 2 (.finish .ok)) = d := Option.some.inj found
  obtain ⟨answered, _, ⟨_, _, _, ends⟩, _⟩ := live ⟨0⟩ ⟨0⟩ rfl rfl
  rw [answered]
  have ended := (ends _).2 rfl
  generalize (Exchange.runDelegate _ _ _).1 = how at ended
  -- the text ends well, whatever the two dispatches answered
  cases ended with
  | dispatch _ rest =>
      cases rest with
      | callback rest =>
          cases rest with
          | finish => rfl

end Switchboard

end Custody
