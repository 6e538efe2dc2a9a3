import Custody.Proofs.Delivery.Accounts
import Custody.Proofs.Delivery.Uninterrupted
import Mathlib.Algebra.GroupWithZero.Nat

/-! Every call returns. The table may grow while delegates run inside delegates, but only by texts
that stood in the text of a delegate before: each step uses up some of the work that is left in the
table and in the calls that are not finished, and only other code brings more.
-/

namespace Custody

/-- A delegate has a step left, by its last one. -/
theorem Delegate.weight_pos (d : Delegate)
    : 0 < d.weight := by
  cases d <;> simp [weight]

-----------------------------------------------------------------------------------------
-- The work that is left
-----------------------------------------------------------------------------------------

/-- A bound on the steps that a call still causes. A step of a text counts four times, so that it
pays for a registration of its own, and for the end of the delegate.
-/
def Frame.work : Frame → Nat
  | running _ _ rest _ => 4 * rest.weight
  | ended _ _ _ _ => 1
  | registering _ _ d none => 4 * d.weight + 1
  | registering _ _ d (some _) => 4 * d.weight + 3
  | posting _ _ _ _ => 2
  | refused _ _ => 1

/-- An answer that is no error leaves a delegate the text that it had. -/
theorem Frame.work_hear_ok (f : Frame) (a : Answer)
    : (f.hear (.ok a)).work = f.work := by
  cases f <;> rfl

/-- An error may end a delegate early. -/
theorem Frame.work_hear_le (f : Frame) (a : Except BusError Answer)
    : (f.hear a).work ≤ f.work := by
  cases f with
  | running k t d seat =>
      cases a with
      | ok a => exact Nat.le_refl _
      | error e =>
          have left := d.weight_pos
          simp only [hear, work]
          omega
  | _ => exact Nat.le_refl _

namespace Switchboard

/-- The work of the calls that are not finished. -/
def unfinished (σ : Switchboard) : Nat :=
  (σ.carried fun f => [f.work]).sum

/-- A bound on the steps that are left: the texts that wait count as those that run. -/
def work (σ : Switchboard) : Nat :=
  4 * σ.delegates.weight + σ.unfinished

variable {σ ρ τ : Switchboard} {i : Nat} {f : Frame}

theorem work_push (σ : Switchboard) (i : Nat) (f : Frame)
    : (σ.push i f).work = σ.work + f.work := by
  have parts : (σ.push i f).unfinished = f.work + σ.unfinished := by
    simp [unfinished, carried_push]
  have table : (σ.push i f).delegates = σ.delegates := rfl
  rw [work, parts, table, work]
  omega

theorem work_pop (here : σ.top i = some f)
    : (σ.pop i).work + f.work = σ.work := by
  have parts : σ.unfinished = f.work + (σ.pop i).unfinished := by
    simpa [unfinished] using (carried_pop (fun f => [f.work]) here).sum_nat
  have table : (σ.pop i).delegates = σ.delegates := rfl
  rw [work, work, parts, table]
  omega

/-- Beside the same calls, the tables make the difference. -/
theorem work_of_calls (calls : ρ.calls = σ.calls)
    : ρ.work + 4 * σ.delegates.weight = σ.work + 4 * ρ.delegates.weight := by
  have same : ρ.unfinished = σ.unfinished := by
    rw [unfinished, carried, calls]
    rfl
  rw [work, work, same]
  omega

/-- A call that goes on as another, beside a table that may have changed. -/
theorem work_replace (here : σ.top i = some f) (calls : ρ.calls = σ.calls) (g : Frame)
    : (ρ.replace i g).work + (4 * σ.delegates.weight + f.work)
      = σ.work + (4 * ρ.delegates.weight + g.work) := by
  have there : ρ.top i = some f := by
    rw [top, calls]
    exact here
  have popped := work_pop there
  have both := work_of_calls calls
  rw [replace, work_push]
  omega

-----------------------------------------------------------------------------------------
-- Calls that begin and end
-----------------------------------------------------------------------------------------

variable (σ i) (k : Asker)

theorem work_answer_le (a : Except BusError Answer)
    : (σ.answer i k a).work ≤ σ.work := by
  rcases σ.answer_cases i k a with ⟨f, b, here, eq⟩ | eq | ⟨b, eq⟩
  · have heard := work_replace here rfl (f.hear b)
    have bound := f.work_hear_le b
    rw [eq]
    omega
  · have same := congrArg work eq
    exact Nat.le_of_eq same
  · have same := congrArg work eq
    exact Nat.le_of_eq same

theorem work_answer_ok (a : Answer)
    : (σ.answer i k (.ok a)).work = σ.work := by
  have ok : (if k.native then .ok .done else .ok a : Except BusError Answer)
      = .ok (if k.native then .done else a) := by
    split <;> rfl
  unfold answer
  rw [ok]
  dsimp only
  split
  · split
    · next f here =>
        have popped := work_pop here
        rw [replace, work_push, f.work_hear_ok]
        exact popped
    · rfl
  · rfl

theorem work_register (d : Delegate) (post : Option Posting)
    : (σ.register i k d post).work
      = σ.work + (Frame.registering k σ.delegates.next d post).work :=
  work_push _ i (.registering k σ.delegates.next d post)

theorem work_tableAct_le (act : TableAct)
    : (σ.tableAct act).work ≤ σ.work := by
  have lighter : (σ.tableAct act).delegates.weight ≤ σ.delegates.weight :=
    σ.delegates.weight_perform_le act
  have both : (σ.tableAct act).work + 4 * σ.delegates.weight = σ.work + _ := work_of_calls rfl
  omega

/-- The text of a delegate that begins to run was in the table. -/
theorem work_dispatch_le (t : Token) (m : Option (Ref Native.Message))
    (c : Option (Ref Native.PendingCall))
    : (σ.dispatch i k t m c).work ≤ σ.work := by
  unfold dispatch
  split
  · exact work_answer_le _ i k _
  · next d delegates taken =>
      have lighter := Registry.weight_take?_le taken
      have left : ({ σ with delegates } : Switchboard).work + 4 * σ.delegates.weight
          = σ.work + 4 * delegates.weight :=
        work_of_calls rfl
      split
      · next m c =>
          rw [work_push, Frame.work]
          show ({ σ with delegates } : Switchboard).work + _ ≤ _
          omega
      · refine Nat.le_trans (work_answer_le _ i k _) ?_
        show ({ σ with delegates } : Switchboard).work ≤ _
        omega

/-- A send brings the text of its delegate. -/
theorem work_send_le (c : Connection) (m : Message) (timeout : Double) (d : Delegate)
    : (σ.send i k c m timeout d).work ≤ σ.work + (4 * d.weight + 3) := by
  have refused (s : State) (e : BusError)
      : ((σ.putState i s).answer i k (.error e)).work ≤ σ.work + (4 * d.weight + 3) :=
    Nat.le_trans (work_answer_le _ i k _) (Nat.le_add_right _ _)
  unfold send
  split
  · exact refused _ _
  · split
    · exact refused _ _
    · exact Nat.le_of_eq (work_register _ i k d _)

-----------------------------------------------------------------------------------------
-- Steps
-----------------------------------------------------------------------------------------

variable {σ i k}

/-- A step after which the call goes on as one with less work, the table included. -/
theorem work_replace_lt (here : σ.top i = some f) (calls : ρ.calls = σ.calls) {g : Frame}
    (less : 4 * ρ.delegates.weight + g.work < 4 * σ.delegates.weight + f.work)
    : (ρ.replace i g).work < σ.work := by
  have both := work_replace here calls g
  omega

/-- A step after which the call is over, and the table did not gain what the call was worth. -/
theorem work_over_lt (here : σ.top i = some f) (calls : ρ.calls = (σ.pop i).calls)
    (less : 4 * ρ.delegates.weight < 4 * σ.delegates.weight + f.work)
    (a : Except BusError Answer)
    : (ρ.answer i k a).work < σ.work := by
  have answered := work_answer_le ρ i k a
  have popped := work_pop here
  have both : ρ.work + 4 * σ.delegates.weight = (σ.pop i).work + 4 * ρ.delegates.weight :=
    work_of_calls calls
  omega

/-- A step of a text uses up more work than it hands on. -/
theorem work_follow_lt {t : Token} {seat : Seat} {text : Delegate}
    (here : σ.top i = some (.running k t text seat))
    : (σ.follow i k t seat text).work < σ.work := by
  have last := text.weight_pos
  cases text with
  | finish ending =>
      refine work_replace_lt here rfl ?_
      simp only [Frame.work, Delegate.weight]
      omega
  | act act next =>
      rw [follow]
      rcases seat.perform (σ.state i) act with ⟨e | a, after, s⟩
      · refine work_replace_lt here rfl (Nat.add_lt_add_left ?_ _)
        simp only [Frame.work]
        omega
      · refine work_replace_lt here rfl (Nat.add_lt_add_left ?_ _)
        simp only [Frame.work, Delegate.weight]
        omega
  | table act next =>
      have lighter : (σ.tableAct act).delegates.weight ≤ σ.delegates.weight :=
        σ.delegates.weight_perform_le act
      refine work_replace_lt (ρ := σ.tableAct act) here rfl ?_
      simp only [Frame.work, Delegate.weight]
      omega
  | register child next =>
      have waits := work_replace here rfl (.running k t next seat)
      simp only [follow, work_register, Delegate.weight, Frame.work] at waits ⊢
      omega
  | dispatch u next =>
      have waits := work_replace here rfl (.running k t next seat)
      have found := work_dispatch_le (σ.replace i (.running k t next seat)) i { inText := true } u
        seat.reply.raw seat.call.raw
      simp only [follow, Delegate.weight, Frame.work] at waits ⊢
      omega
  | callback u next =>
      have waits := work_replace here rfl (.running k t next seat)
      have found := work_dispatch_le (σ.replace i (.running k t next seat)) i
        { inText := true, native := true } u seat.reply.raw seat.call.raw
      simp only [follow, Delegate.weight, Frame.work] at waits ⊢
      omega
  | forward c timeout child next =>
      rw [follow]
      rcases Message.newRef seat.reply (σ.state i) with ⟨e | m, s⟩
      · refine work_replace_lt here rfl (Nat.add_lt_add_left ?_ _)
        simp only [Frame.work]
        omega
      · have waits := work_replace (ρ := σ.putState i s) here rfl (.running k t next seat)
        have sent := work_send_le ((σ.putState i s).replace i (.running k t next seat)) i
          { inText := true } c m timeout child
        have table : (σ.putState i s).delegates = σ.delegates := rfl
        rw [table] at waits
        simp only [Delegate.weight, Frame.work] at waits ⊢
        omega

/-- A step of an unfinished call uses up work, by cases of the call. -/
theorem work_advance_lt (here : σ.top i = some f)
    : (σ.advance i).work < σ.work := by
  unfold advance
  rw [here]
  cases f with
  | running k t text seat => exact work_follow_lt here
  | ended k t how seat =>
      let p := (((σ.exchange i).leave seat).settle how).2
      have table : p.delegates = σ.delegates := by
        cases how <;> rfl
      refine work_over_lt (ρ := (σ.pop i).put i p) here rfl ?_ _
      show 4 * p.delegates.weight < _
      rw [table]
      exact Nat.lt_succ_self _
  | registering k t d post =>
      let ρ := { σ with delegates := σ.delegates.enlist t d }.record [.token (.enlisted t d)]
      have entered : ρ.delegates.weight ≤ σ.delegates.weight + d.weight := by
        have kept := σ.delegates.weight_erase_le t
        simp only [ρ, Switchboard.record, Registry.enlist, Registry.weight,
          Registry.totalWeight_append, Registry.totalWeight] at kept ⊢
        omega
      cases post with
      | none =>
          refine work_over_lt (ρ := ρ.pop i) here rfl ?_ _
          show 4 * ρ.delegates.weight < _
          simp only [Frame.work]
          omega
      | some post =>
          refine work_replace_lt (ρ := ρ) here rfl ?_
          simp only [Frame.work]
          omega
  | posting k t d post =>
      dsimp only
      split
      · next call s _ =>
          exact work_over_lt (ρ := ((σ.pop i).putState i (s.note .sent)).record _) here rfl
            (Nat.lt_add_of_pos_right Nat.two_pos) _
      · next s _ =>
          exact work_replace_lt (ρ := σ.putState i s) here rfl (Nat.lt_succ_self _)
  | refused k t =>
      have lighter := σ.delegates.weight_erase_le t
      refine work_over_lt (ρ := ((σ.pop i).tableAct (.remove t)).putState i _) here rfl ?_ _
      exact Nat.lt_succ_of_le (Nat.mul_le_mul_left 4 lighter)

-----------------------------------------------------------------------------------------
-- Moves of other code
-----------------------------------------------------------------------------------------

namespace Move

/-- Whether an unfinished call goes on. -/
def goesOn : Move → Bool
  | advance => true
  | _ => false

/-- The work that other code brings: the text of a delegate that it registers or sends. -/
def brings : Move → Nat
  | register d => 4 * d.weight + 1
  | send _ _ _ d => 4 * d.weight + 3
  | _ => 0

end Move

theorem work_keepMade (σ : Switchboard) (i : Nat) (made : Attempt BusError Message)
    (deeds : Message → List Deed)
    : (σ.keepMade i made deeds).work = σ.work := by
  rcases made with ⟨e | m, s⟩ <;> rfl

/-- Other code brings no more work than what it registers. -/
theorem work_move_le (σ : Switchboard) (i : Nat) {move : Move} (other : move.goesOn = false)
    : (σ.move i move).work ≤ σ.work + move.brings := by
  have same := Nat.le_refl σ.work
  cases move with
  | advance => cases other
  | register d => exact Nat.le_of_eq (work_register σ i _ d none)
  | send c place timeout d =>
      rw [Switchboard.move]
      split
      · exact work_send_le _ i _ c _ timeout d
      · exact Nat.le_add_right _ _
  | dispatch t m c => exact work_dispatch_le σ i _ t m c
  | callback t m c => exact work_dispatch_le σ i _ t m c
  | deliver c place m =>
      rw [Switchboard.move]
      split
      · exact work_dispatch_le σ i _ _ m _
      · exact same
  | table a => exact work_tableAct_le σ a
  | methodCall destination path interface method =>
      exact Nat.le_of_eq (work_keepMade σ i _ _)
  | newRef place =>
      rw [Switchboard.move]
      split
      · exact Nat.le_of_eq (work_keepMade σ i _ _)
      · exact same
  | act place | disown place | drop place =>
      rw [Switchboard.move]
      split <;> exact same
  | _ => exact same

-----------------------------------------------------------------------------------------
-- Whole runs
-----------------------------------------------------------------------------------------

/-- A call goes on only where there is one that is not finished. -/
def Busy (σ : Switchboard) : List (Nat × Move) → Prop
  | [] => True
  | e :: rest =>
      (e.2.goesOn = true → (σ.top e.1).isSome = true) ∧ (σ.step e).Busy rest

/-- By recursion on the moves. -/
instance decidableBusy (σ : Switchboard) : (es : List (Nat × Move)) → Decidable (σ.Busy es)
  | [] => isTrue trivial
  | e :: rest =>
      have := decidableBusy (σ.step e) rest
      inferInstanceAs (Decidable ((e.2.goesOn = true → (σ.top e.1).isSome = true) ∧ _))

/-- The steps of calls are paid with the work that was left, and with what other code brought; by
induction on the moves.
-/
theorem Busy.length_le {es : List (Nat × Move)} (busy : σ.Busy es)
    : es.countP (·.2.goesOn) + (σ.run es).work ≤ σ.work + (es.map (·.2.brings)).sum := by
  induction es generalizing σ with
  | nil => exact Nat.le_of_eq (Nat.zero_add _)
  | cons e rest ih =>
      obtain ⟨i, move⟩ := e
      have later : rest.countP (·.2.goesOn) + (σ.run ((i, move) :: rest)).work
          ≤ (σ.move i move).work + (rest.map (·.2.brings)).sum :=
        ih busy.2
      simp only [List.countP_cons, List.map_cons, List.sum_cons]
      cases goes : move.goesOn with
      | false =>
          have brought := work_move_le σ i goes
          simp only [Bool.false_eq_true, if_false]
          omega
      | true =>
          obtain ⟨f, here⟩ := Option.isSome_iff_exists.1 (busy.1 goes)
          cases move with
          | advance =>
              have used : (σ.move i .advance).work < σ.work := work_advance_lt here
              simp only [if_true]
              omega
          | _ => cases goes

/-- The calls of a thread get from one switchboard to another in no more steps than there is work
between the two, by induction on the steps.
-/
theorem Leads.run_le (leads : σ.Leads τ i)
    : ∃ n, n + τ.work ≤ σ.work ∧ σ.run (List.replicate n (i, .advance)) = τ := by
  induction leads using Relation.ReflTransGen.head_induction_on with
  | refl => exact ⟨0, Nat.le_of_eq (Nat.zero_add _), rfl⟩
  | @head σ ρ step _ ih =>
      obtain ⟨n, bound, reached⟩ := ih
      cases here : σ.top i with
      | none =>
          have stays : ρ = σ := by rw [← step, advance, here]
          subst stays
          exact ⟨n, bound, reached⟩
      | some f =>
          have used := work_advance_lt here
          rw [step] at used
          refine ⟨n + 1, by omega, ?_⟩
          rw [← reached, ← step]
          rfl

/-- A dispatch or a callback returns, whatever waits in the table and whatever runs inside it: its
thread takes it to its answer in no more steps than four times the texts in the table, and calls that
are not finished never go on for ever, however deep they are and whatever other code does between
their steps. Of the delegates that run meanwhile there are no more than waited at first or were put
into the table since.
-/
theorem every_dispatch_returns (σ : Switchboard) (i : Nat) (k : Asker) (t : Token)
    (m : Option (Ref Native.Message)) (c : Option (Ref Native.PendingCall))
    : let begun := σ.dispatch i k t m c
      let out := (σ.exchange i).dispatch t m c
      (∃ n deeds,
        n + 4 * out.2.delegates.weight ≤ 4 * σ.delegates.weight
        ∧ begun.run (List.replicate n (i, .advance))
          = ((σ.put i out.2).record deeds).answer i k (.ok (.outcome out.1)))
      ∧ (∀ es,
          begun.Busy es
          → es.countP (·.2.goesOn) ≤ σ.work + (es.map (·.2.brings)).sum)
      ∧ ∀ es,
        ∃ more,
          (begun.run es).tokenDeeds = σ.tokenDeeds ++ more
          ∧ (more.filterMap TokenDeed.invoked?).length
            ≤ σ.delegates.size + (more.filterMap TokenDeed.enlisted?).length := by
  dsimp only
  have found := σ.work_dispatch_le i k t m c
  refine ⟨?_, fun es busy => ?_, fun es => ?_⟩
  · obtain ⟨deeds, leads⟩ := completes_dispatch σ i k t m c
    obtain ⟨n, bound, reached⟩ := leads.run_le
    refine ⟨n, deeds, ?_, reached⟩
    -- the answer is no error, so the calls below have the texts that they had
    have left
        : ((σ.put i ((σ.exchange i).dispatch t m c).2).record deeds).work
          = 4 * ((σ.exchange i).dispatch t m c).2.delegates.weight + σ.unfinished :=
      rfl
    have total : σ.work = 4 * σ.delegates.weight + σ.unfinished := rfl
    rw [work_answer_ok, left] at bound
    omega
  · have paid := busy.length_le
    omega
  · obtain ⟨first, before⟩ := (step_dispatch σ i k t m c).accounts
    obtain ⟨later, after⟩ := accounts_run (σ.dispatch i k t m c) es
    have both := before.trans after
    exact ⟨_, both.deeds, both.length_invoked_le⟩

/-- A delegate puts another into the table, and both dispatch each other and themselves. -/
def nesting : List (Nat × Move) :=
  [(0, .register
      (.register (.dispatch 2 (.callback 1 (.finish .ok)))
        (.dispatch 2 (.dispatch 1 (.finish .panic))))),
    (0, .advance)]

theorem nesting_every_dispatch_returns
    : let σ := (start {} fun _ => {}).run nesting
      let begun := σ.dispatch 0 { inText := false } 1 (some ⟨0⟩) (some ⟨0⟩)
      begun.Busy (List.replicate 10 (0, .advance))
      ∧ (begun.run (List.replicate 10 (0, .advance))).invoked.map (·.1) = [1, 2]
      ∧ (begun.run (List.replicate 10 (0, .advance))).calls = []
      ∧ (List.replicate 10 (0, Move.advance)).countP (·.2.goesOn)
        ≤ σ.work + ((List.replicate 10 (0, Move.advance)).map (·.2.brings)).sum := by
  have busy
      : (((start {} fun _ => {}).run nesting).dispatch 0 { inText := false } 1 (some ⟨0⟩)
          (some ⟨0⟩)).Busy (List.replicate 10 (0, .advance)) := by
    decide +kernel
  exact ⟨busy, by decide +kernel, by decide +kernel,
    (every_dispatch_returns _ 0 _ 1 _ _).2.1 _ busy⟩

end Switchboard

end Custody
