import Custody.Proofs.Delivery.Turns

/-! What calls answer, to other code and to delegates, is what is recorded of them. A registration answers the
token that it gave out, and nothing else answers a token, so none is answered more often than it was given
out; an unregistration answers whether it took its token out.
-/

namespace Custody

-----------------------------------------------------------------------------------------
-- Acts and endings
-----------------------------------------------------------------------------------------

namespace Seat

variable {α : Type} (seat : Seat)

/-- An act answers an error, or something that is neither an error nor a token, and leaves alone what was
learnt before.
-/
structure Acted (seat : Seat) (r : Except BusError Answer × Seat × State) : Prop where
  answers : r.2.1.answers = seat.answers
  passed : ∀ a, r.1 = .ok a → ∀ e, a ≠ .failed e
  tokenless : ∀ t, r.1 ≠ .ok (.token t)

theorem acted_ask {answer : α → Answer} (passed : ∀ v e, answer v ≠ .failed e)
    (tokenless : ∀ v t, answer v ≠ .token t) (a : Attempt BusError α)
    : seat.Acted (seat.ask answer a) := by
  obtain ⟨e' | v, s⟩ := a
  · exact ⟨rfl, by rintro _ ⟨⟩, by rintro _ ⟨⟩⟩
  · refine ⟨rfl, fun b same e => ?_, fun t same => tokenless v t (Except.ok.inj same)⟩
    cases same
    exact passed v e

theorem acted_perform (s : State) (a : Act)
    : seat.Acted (seat.perform s a) := by
  have said {b : Answer} {after : Seat} {t : State} (learnt : after.answers = seat.answers)
      (passed : ∀ e, b ≠ .failed e) (tokenless : ∀ t, b ≠ .token t)
      : seat.Acted (.ok b, after, t) := by
    refine ⟨learnt, fun a same => ?_, fun t same => tokenless t (Except.ok.inj same)⟩
    cases same
    exact passed
  cases a with
  | cancel =>
      rw [perform]
      rcases seat.call.cancel s with ⟨e | call, t⟩
      · exact ⟨rfl, by simp, by simp⟩
      · exact said rfl (by simp) (by simp)
  | owns | own | release | dispose => exact said rfl (by simp) (by simp)
  | signature | fault | currentType | cursorSignature | read n | readBytes | append v | method
    | newRef => exact seat.acted_ask (by simp) (by simp) _

end Seat

namespace Exchange

variable (p : Exchange)

@[simp]
theorem delegates_settle (how : Ended)
    : (p.settle how).2.delegates = p.delegates := by
  cases how <;> rfl

@[simp]
theorem reports_settle (how : Ended)
    : (p.settle how).2.reports = p.reports := by
  cases how <;> rfl

end Exchange

theorem Registry.perform_ne_token (r : Registry) (a : TableAct) (t : Token)
    : (r.perform a).1 ≠ .token t := by
  cases a <;> simp [perform]

-----------------------------------------------------------------------------------------
-- Answers
-----------------------------------------------------------------------------------------

/-- What a call of other code answered, if that is no error. -/
def Deed.answer? : Deed → Option Answer
  | answered _ (.ok a) => some a
  | _ => none

/-- What a delegate has learnt. -/
def Frame.learnt : Frame → List Answer
  | running _ _ _ seat | ended _ _ _ seat => seat.answers
  | _ => []

namespace Switchboard

/-- All answers: to other code, to delegates that are not over, and to those that are. -/
def answers (σ : Switchboard) : List Answer :=
  σ.told Deed.answer? ++ σ.carried Frame.learnt ++ σ.reports.flatten

/-- From the first switchboard to the second, no token was answered. -/
def Tokenless (σ τ : Switchboard) : Prop :=
  ∀ t, τ.answers.count (.token t) ≤ σ.answers.count (.token t)

variable {σ ρ τ : Switchboard} {i : Nat} {f g : Frame} {k : Asker}

theorem count_answers (σ : Switchboard) (a : Answer)
    : σ.answers.count a
      = (σ.told Deed.answer?).count a + (σ.carried Frame.learnt).count a
        + σ.reports.flatten.count a := by
  rw [answers, List.count_append, List.count_append]

theorem Tokenless.refl (σ : Switchboard)
    : σ.Tokenless σ :=
  fun _ => Nat.le_refl _

theorem Tokenless.trans (first : σ.Tokenless ρ) (second : ρ.Tokenless τ)
    : σ.Tokenless τ :=
  fun t => Nat.le_trans (second t) (first t)

/-- What leaves the record, the calls and the reports alone. -/
theorem Tokenless.of_same (history : τ.history = σ.history) (calls : τ.calls = σ.calls)
    (reports : τ.reports = σ.reports)
    : σ.Tokenless τ := by
  intro t
  rw [answers, told, carried, history, calls, reports]
  exact Nat.le_refl _

theorem count_record (σ : Switchboard) (deeds : List Deed) (a : Answer)
    : (σ.record deeds).answers.count a
      = σ.answers.count a + (deeds.filterMap Deed.answer?).count a := by
  have carried : (σ.record deeds).carried Frame.learnt = σ.carried Frame.learnt := rfl
  have reports : (σ.record deeds).reports = σ.reports := rfl
  rw [count_answers, count_answers, told_record, carried, reports, List.count_append]
  omega

theorem Tokenless.record (sofar : σ.Tokenless ρ) {deeds : List Deed}
    (none : deeds.filterMap Deed.answer? = [])
    : σ.Tokenless (ρ.record deeds) := by
  intro t
  rw [count_record, none]
  exact sofar t

theorem Tokenless.putState (sofar : σ.Tokenless ρ) (i : Nat) (s : State)
    : σ.Tokenless (ρ.putState i s) :=
  sofar.trans (.of_same rfl rfl rfl)

theorem Tokenless.push (sofar : σ.Tokenless ρ) (i : Nat) (none : f.learnt = [])
    : σ.Tokenless (ρ.push i f) := by
  intro t
  rw [answers, carried_push, none]
  exact sofar t

/-- What a call carried is gone with it. -/
theorem count_pop (here : σ.top i = some f) (a : Answer)
    : (σ.pop i).answers.count a + f.learnt.count a = σ.answers.count a := by
  have parted := (carried_pop Frame.learnt here).count_eq a
  have told : (σ.pop i).told Deed.answer? = σ.told Deed.answer? := rfl
  have reports : (σ.pop i).reports = σ.reports := rfl
  rw [List.count_append] at parted
  rw [count_answers, count_answers, told, reports, parted]
  omega

theorem tokenless_pop (here : σ.top i = some f)
    : σ.Tokenless (σ.pop i) := by
  intro t
  rw [← count_pop here]
  exact Nat.le_add_right _ _

theorem count_replace (here : σ.top i = some f) (g : Frame) (a : Answer)
    : (σ.replace i g).answers.count a + f.learnt.count a
      = σ.answers.count a + g.learnt.count a := by
  have swapped := (carried_replace Frame.learnt here g).count_eq a
  have told : (σ.replace i g).told Deed.answer? = σ.told Deed.answer? := rfl
  have reports : (σ.replace i g).reports = σ.reports := rfl
  rw [List.count_append, List.count_append] at swapped
  rw [count_answers, count_answers, told, reports]
  omega

/-- A call that goes on as one that has learnt no token since. -/
theorem Tokenless.replace (sofar : σ.Tokenless ρ) (here : ρ.top i = some f)
    (learnt : ∀ t, g.learnt.count (.token t) = f.learnt.count (.token t))
    : σ.Tokenless (ρ.replace i g) := by
  intro t
  have swapped := count_replace here g (.token t)
  have before := sofar t
  rw [learnt t] at swapped
  omega

theorem Tokenless.goes_on (sofar : σ.Tokenless ρ) (here : ρ.top i = some f)
    (same : g.learnt = f.learnt)
    : σ.Tokenless (ρ.replace i g) :=
  sofar.replace here fun _ => congrArg (List.count _) same

/-- A delegate that learns something else than a token. -/
theorem count_learn (seat : Seat) {a : Answer} {t : Token} (other : a ≠ .token t)
    : (seat.learn a).answers.count (.token t) = seat.answers.count (.token t) := by
  rw [Seat.learn, List.count_append, List.count_singleton, if_neg (by simpa using other)]
  rfl

/-- A delegate hears a token once at most, and only if that is the answer. -/
theorem count_hear (b : Except BusError Answer) (f : Frame) (t : Token)
    : (f.hear b).learnt.count (.token t)
      ≤ f.learnt.count (.token t) + if b = .ok (.token t) then 1 else 0 := by
  cases f with
  | running k u d seat =>
      cases b with
      | error e =>
          exact Nat.le_trans (Nat.le_of_eq (count_learn seat (a := .failed e) (by simp)))
            (Nat.le_add_right _ _)
      | ok a =>
          by_cases same : a = .token t
          · subst same
            simp [Frame.hear, Frame.learnt, Seat.learn]
          · exact Nat.le_trans (Nat.le_of_eq (count_learn seat same)) (Nat.le_add_right _ _)
  | _ => exact Nat.le_add_right _ _

/-- A call answers a token once at most, and only if that is its answer. -/
theorem count_answer (σ : Switchboard) (i : Nat) (k : Asker) (a : Except BusError Answer)
    (t : Token)
    : (σ.answer i k a).answers.count (.token t)
      ≤ σ.answers.count (.token t) + if a = .ok (.token t) then 1 else 0 := by
  have handed {b : Except BusError Answer} (same : (if k.native then .ok .done else a) = b)
      : (if b = .ok (.token t) then 1 else 0) ≤ if a = .ok (.token t) then 1 else 0 := by
    subst same
    split <;> simp
  unfold answer
  dsimp only
  generalize same : (if k.native then (.ok .done : Except BusError Answer) else a) = b
  have fewer := handed same
  split
  · split
    · next f here =>
        have swapped := count_replace here (f.hear b) (.token t)
        have heard := count_hear b f t
        omega
    · exact Nat.le_add_right _ _
  · rw [count_record]
    refine Nat.add_le_add_left (Nat.le_trans ?_ fewer) _
    cases b with
    | error e => exact Nat.zero_le _
    | ok a =>
        show [a].count (.token t) ≤ _
        simp [List.count_singleton]

theorem Tokenless.answer (sofar : σ.Tokenless ρ) (i : Nat) (k : Asker)
    {a : Except BusError Answer} (other : ∀ t, a ≠ .ok (.token t))
    : σ.Tokenless (ρ.answer i k a) := by
  intro t
  have counted := ρ.count_answer i k a t
  rw [if_neg (other t)] at counted
  exact Nat.le_trans counted (sofar t)

-----------------------------------------------------------------------------------------
-- Steps
-----------------------------------------------------------------------------------------

/-- What is recorded of references is no answer. -/
theorem answer?_map {β : Type} (refs : List β) {see : β → Deed} (none : ∀ r, (see r).answer? = none)
    : (refs.map see).filterMap Deed.answer? = [] := by
  rw [List.filterMap_map, List.filterMap_eq_nil_iff]
  exact fun r _ => none r

theorem answer?_deeds (reply : Message) (a : Act)
    : (a.deeds reply).filterMap Deed.answer? = [] := by
  rw [Act.deeds, List.filterMap_append, answer?_map _ fun _ => rfl, answer?_map _ fun _ => rfl]
  rfl

theorem answer?_tableDeeds (r : Registry) (act : TableAct)
    : (act.deeds r).filterMap Deed.answer? = [] := by
  cases act with
  | remove t =>
      rw [TableAct.deeds]
      split <;> rfl
  | count | contains => rfl

theorem Tokenless.tableAct (sofar : σ.Tokenless ρ) (act : TableAct)
    : σ.Tokenless (ρ.tableAct act) :=
  .record (sofar.trans (.of_same rfl rfl rfl)) (answer?_tableDeeds _ act)

theorem Tokenless.register (sofar : σ.Tokenless ρ) (i : Nat) (k : Asker) (d : Delegate)
    (post : Option Posting)
    : σ.Tokenless (ρ.register i k d post) :=
  .push (.record (sofar.trans (.of_same rfl rfl rfl)) rfl) i rfl

theorem Tokenless.dispatch (sofar : σ.Tokenless ρ) (i : Nat) (k : Asker) (t : Token)
    (m : Option (Ref Native.Message)) (c : Option (Ref Native.PendingCall))
    : σ.Tokenless (ρ.dispatch i k t m c) := by
  unfold Switchboard.dispatch
  split
  · exact (sofar.putState i _).answer i k (by simp)
  · next d delegates _ =>
      have without : σ.Tokenless { ρ with delegates } := sofar.trans (.of_same rfl rfl rfl)
      split
      · exact (without.record rfl).push i rfl
      · exact ((without.record rfl).putState i _).answer i k (by simp)

theorem Tokenless.send (sofar : σ.Tokenless ρ) (i : Nat) (k : Asker) (c : Connection)
    (m : Message) (timeout : Double) (d : Delegate)
    : σ.Tokenless (ρ.send i k c m timeout d) := by
  unfold Switchboard.send
  split
  · exact (sofar.putState i _).answer i k (by simp)
  · split
    · exact (sofar.putState i _).answer i k (by simp)
    · exact ((sofar.putState i _).record rfl).register i k d _

/-- No step in the text of a delegate tells it a token at once. -/
theorem tokenless_follow {t : Token} {seat : Seat} {text : Delegate}
    (here : σ.top i = some (.running k t text seat))
    : σ.Tokenless (σ.follow i k t seat text) := by
  have refl := Tokenless.refl σ
  have next (text : Delegate) : σ.Tokenless (σ.replace i (.running k t text seat)) :=
    refl.goes_on here rfl
  cases text with
  | finish ending => exact refl.goes_on here rfl
  | act act rest =>
      have acted := seat.acted_perform (σ.state i) act
      rw [follow]
      generalize seat.perform (σ.state i) act = p at acted
      obtain ⟨answer, after, s⟩ := p
      have kept : after.answers = seat.answers := acted.answers
      have learns {g : Frame} {a : Answer} (other : ∀ u, a ≠ .token u)
          (learnt : g.learnt = (after.learn a).answers)
          : σ.Tokenless (((σ.putState i s).record (act.deeds seat.reply)).replace i g) := by
        refine ((refl.putState i s).record (answer?_deeds _ act)).replace here fun u => ?_
        rw [learnt, count_learn after (other u), kept]
        rfl
      cases answer with
      | ok a => exact learns (fun u same => acted.tokenless u (congrArg Except.ok same)) rfl
      | error e => exact learns (a := .failed e) (by simp) rfl
  | table act rest =>
      refine (refl.tableAct act).replace here fun u => ?_
      exact count_learn seat (σ.delegates.perform_ne_token act u)
  | register child rest => exact (next rest).register i _ child _
  | dispatch u rest | callback u rest => exact (next rest).dispatch i _ u _ _
  | forward c timeout child rest =>
      rw [follow]
      split
      · next e s _ =>
          refine (refl.putState i s).replace here fun u => ?_
          exact count_learn seat (a := .failed e) (by simp)
      · next m s _ =>
          have taken : σ.Tokenless ((σ.putState i s).replace i (.running k t rest seat)) :=
            (refl.putState i s).goes_on here rfl
          exact taken.send i _ c m timeout child

/-- The report of a delegate has what it learnt. -/
theorem tokenless_ended {t : Token} {how : Ended} {seat : Seat}
    (here : σ.top i = some (.ended k t how seat))
    : σ.Tokenless ((σ.pop i).put i (((σ.exchange i).leave seat).settle how).2) := by
  intro u
  have popped := count_pop here (.token u)
  have reports
      : ((σ.pop i).put i (((σ.exchange i).leave seat).settle how).2).reports
        = σ.reports ++ [seat.answers] :=
    Exchange.reports_settle _ how
  have before : (σ.pop i).reports = σ.reports := rfl
  rw [count_answers] at popped ⊢
  rw [reports, List.flatten_append, List.count_append, List.flatten_singleton]
  rw [before] at popped
  exact Nat.le_of_eq ((Nat.add_assoc _ _ _).symm.trans popped)

/-- The innermost call answers a token only where it registers. -/
theorem tokenless_advance (σ : Switchboard) (i : Nat)
    (other : ∀ k t d, σ.top i ≠ some (.registering k t d none))
    : σ.Tokenless (σ.advance i) := by
  have refl := Tokenless.refl σ
  cases here : σ.top i with
  | none =>
      rw [advance, here]
      exact refl
  | some f =>
      rw [advance, here]
      cases f with
      | running k t text seat => exact tokenless_follow here
      | ended k t how seat => exact (tokenless_ended here).answer i k (by simp)
      | registering k t d post =>
          cases post with
          | none => exact absurd here (other k t d)
          | some post =>
              have waits : σ.Tokenless { σ with delegates := σ.delegates.enlist t d } :=
                .of_same rfl rfl rfl
              exact (waits.record rfl).goes_on here rfl
      | posting k t d post =>
          dsimp only
          split
          · exact (((tokenless_pop here).putState i _).record rfl).answer i k (by simp)
          · next s _ => exact (refl.putState i s).goes_on here rfl
      | refused k t => exact (((tokenless_pop here).tableAct _).putState i _).answer i k (by simp)

theorem tokenless_keepMade (σ : Switchboard) (i : Nat) (made : Attempt BusError Message)
    {deeds : Message → List Deed} (none : ∀ m, (deeds m).filterMap Deed.answer? = [])
    : σ.Tokenless (σ.keepMade i made deeds) := by
  obtain ⟨e | m, s⟩ := made
  · exact (Tokenless.refl σ).putState i s
  · exact .record (.of_same rfl rfl rfl) (none m)

/-- Other code is answered a token only by a registration. -/
theorem tokenless_move (σ : Switchboard) (i : Nat) {move : Move} (other : move ≠ .advance)
    : σ.Tokenless (σ.move i move) := by
  have refl := Tokenless.refl σ
  cases move with
  | advance => exact absurd rfl other
  | nativeMessage body => exact (refl.putState i _).record rfl
  | nativeCall | nativeConnection | failNextMessage | failNextSend | setMainLoop | flush | flushTask =>
      exact refl.putState i _
  | methodCall destination path interface method =>
      exact tokenless_keepMade σ i _ fun m => answer?_map _ fun _ => rfl
  | adopt raw own => exact .record (.of_same rfl rfl rfl) (answer?_map _ fun _ => rfl)
  | newRef place =>
      rw [Switchboard.move]
      split
      · exact tokenless_keepMade σ i _ fun _ => rfl
      · exact refl
  | act place call a =>
      rw [Switchboard.move]
      split
      · next w _ =>
          have acted := Seat.acted_perform { reply := w, call } (σ.state i) a
          rw [useWrapper]
          generalize Seat.perform { reply := w, call } (σ.state i) a = p at acted
          obtain ⟨answer, seat, s⟩ := p
          have performed := (refl.putState i s).record (answer?_deeds w a)
          have set : σ.Tokenless { (σ.putState i s).record (a.deeds w) with wrappers := _ } :=
            performed.trans (.of_same rfl rfl rfl)
          exact set.answer i { inText := false } acted.tokenless
      · exact refl
  | disown place =>
      rw [Switchboard.move]
      split
      · exact .record (.of_same rfl rfl rfl) (answer?_map _ fun _ => rfl)
      · exact refl
  | drop place =>
      rw [Switchboard.move]
      split
      · exact .of_same rfl rfl rfl
      · exact refl
  | table a =>
      refine (refl.tableAct a).answer i { inText := false } fun t same => ?_
      exact σ.delegates.perform_ne_token a t (Except.ok.inj same)
  | register d => exact refl.register i _ d none
  | dispatch t m c | callback t m c => exact refl.dispatch i _ t m c
  | deliver c place m =>
      rw [Switchboard.move]
      split
      · exact refl.dispatch i _ _ m _
      · exact refl
  | send c place timeout d =>
      rw [Switchboard.move]
      split
      · exact .send (.of_same rfl rfl rfl) i _ c _ timeout d
      · exact refl

-----------------------------------------------------------------------------------------
-- Registrations
-----------------------------------------------------------------------------------------

/-- A registration puts its delegate into the table, and is over. -/
def enlist (σ : Switchboard) (i : Nat) (t : Token) (d : Delegate) : Switchboard :=
  ({ σ with delegates := σ.delegates.enlist t d }.record [.token (.enlisted t d)]).pop i

theorem advance_registers {t : Token} {d : Delegate}
    (here : σ.top i = some (.registering k t d none))
    : σ.advance i = (σ.enlist i t d).answer i k (.ok (.token t)) := by
  rw [advance, here]
  rfl

theorem issued_registers {t : Token} {d : Delegate}
    (here : σ.top i = some (.registering k t d none))
    : (σ.advance i).issued = σ.issued ++ [t] := by
  have answered
      : ((σ.enlist i t d).answer i k (.ok (.token t))).tokenDeeds = (σ.enlist i t d).tokenDeeds :=
    told_answer _ i k _ fun _ _ => rfl
  have enlisted : (σ.enlist i t d).tokenDeeds = σ.tokenDeeds ++ [.enlisted t d] :=
    tokenDeeds_record _ _
  rw [advance_registers here, issued, Switchboard.enlisted, answered, enlisted,
    List.filterMap_append, List.map_append]
  rfl

/-- The token of a registration that is over is answered once at most. -/
theorem count_registers {t : Token} {d : Delegate}
    (here : σ.top i = some (.registering k t d none)) (u : Token)
    : (σ.advance i).answers.count (.token u) + σ.issued.count u
      ≤ σ.answers.count (.token u) + (σ.advance i).issued.count u := by
  have enlisted : σ.Tokenless (σ.enlist i t d) := by
    have waits : σ.Tokenless ({ σ with delegates := _ }.record [.token (.enlisted t d)]) :=
      .record (.of_same rfl rfl rfl) rfl
    exact waits.trans (tokenless_pop here)
  have before := enlisted u
  have answered := (σ.enlist i t d).count_answer i k (.ok (.token t)) u
  rw [issued_registers here, advance_registers here, List.count_append, List.count_singleton]
  simp only [Except.ok.injEq, Answer.token.injEq, beq_iff_eq] at answered ⊢
  omega

/-- Other code that registers a delegate is answered the token. -/
theorem register_answers {t : Token} {d : Delegate}
    (here : σ.top i = some (.registering { inText := false } t d none))
    : (σ.advance i).told Deed.answer? = σ.told Deed.answer? ++ [.token t] := by
  have enlisted : (σ.enlist i t d).told Deed.answer? = σ.told Deed.answer? := by
    refine (told_record { σ with delegates := _ } [.token (.enlisted t d)] _).trans ?_
    exact List.append_nil _
  rw [advance_registers here, ← enlisted]
  exact told_record _ [.answered i (.ok (.token t))] _

/-- So is a delegate. -/
theorem register_learns {t u : Token} {d next : Delegate} {seat : Seat}
    (here : σ.top i = some (.registering { inText := true } t d none))
    (below : (σ.pop i).top i = some (.running k u next seat))
    : (σ.advance i).top i = some (.running k u next (seat.learn (.token t))) := by
  have asks : (σ.enlist i t d).top i = some (.running k u next seat) := below
  rw [advance_registers here, answer_inText _ _ asks, top_replace]
  rfl

-----------------------------------------------------------------------------------------
-- Unregistrations
-----------------------------------------------------------------------------------------

/-- An unregistration takes its token out if it is there. -/
theorem removed_tableAct (σ : Switchboard) (t : Token)
    : (σ.tableAct (.remove t)).removed
      = σ.removed ++ if σ.delegates.contains t then [t] else [] := by
  rw [removed, tableAct, tokenDeeds_record, List.filterMap_append, TableAct.deeds]
  refine congrArg (σ.removed ++ ·) ?_
  split <;> rfl

/-- Other code that unregisters a token is answered whether it was there. -/
theorem unregister_answers (σ : Switchboard) (i : Nat) (t : Token)
    : (σ.step (i, .table (.remove t))).told Deed.answer?
        = σ.told Deed.answer? ++ [.flag (σ.delegates.contains t)]
      ∧ (σ.step (i, .table (.remove t))).removed
        = σ.removed ++ if σ.delegates.contains t then [t] else [] := by
  have stepped
      : σ.step (i, .table (.remove t))
        = (σ.tableAct (.remove t)).record [.answered i (.ok (.flag (σ.delegates.contains t)))] :=
    rfl
  have told : (σ.tableAct (.remove t)).told Deed.answer? = σ.told Deed.answer? := by
    rw [tableAct, told_record, answer?_tableDeeds, List.append_nil]
    rfl
  rw [stepped, told_record, told, ← σ.removed_tableAct t, removed, tokenDeeds_record]
  exact ⟨rfl, congrArg _ (List.append_nil _)⟩

/-- So is a delegate. -/
theorem unregister_learns {t u : Token} {next : Delegate} {seat : Seat}
    (here : σ.top i = some (.running k t (.table (.remove u) next) seat))
    : (σ.step (i, .advance)).top i
        = some (.running k t next (seat.learn (.flag (σ.delegates.contains u))))
      ∧ (σ.step (i, .advance)).removed
        = σ.removed ++ if σ.delegates.contains u then [u] else [] := by
  have stepped
      : σ.step (i, .advance)
        = (σ.tableAct (.remove u)).replace i
            (.running k t next (seat.learn (.flag (σ.delegates.contains u)))) := by
    rw [step, move, advance, here]
    rfl
  rw [stepped, top_replace]
  exact ⟨rfl, σ.removed_tableAct u⟩

-----------------------------------------------------------------------------------------
-- Whole runs
-----------------------------------------------------------------------------------------

theorem issued_step (σ : Switchboard) (e : Nat × Move) (t : Token)
    : σ.issued.count t ≤ (σ.step e).issued.count t := by
  have kept : σ.tokenDeeds <+: (σ.step e).tokenDeeds := σ.tokenDeeds_run [e]
  exact ((kept.sublist.filterMap _).map _).count_le t

/-- No more tokens are answered in a step than are given out in it. -/
theorem count_step (σ : Switchboard) (e : Nat × Move) (t : Token)
    : (σ.step e).answers.count (.token t) + σ.issued.count t
      ≤ σ.answers.count (.token t) + (σ.step e).issued.count t := by
  obtain ⟨i, move⟩ := e
  have more := σ.issued_step (i, move) t
  have tokenless (quiet : σ.Tokenless (σ.step (i, move)))
      : (σ.step (i, move)).answers.count (.token t) + σ.issued.count t
        ≤ σ.answers.count (.token t) + (σ.step (i, move)).issued.count t :=
    Nat.add_le_add (quiet t) more
  by_cases advances : move = .advance
  · subst advances
    by_cases registers : ∃ k u d, σ.top i = some (.registering k u d none)
    · obtain ⟨k, u, d, here⟩ := registers
      exact count_registers here t
    · exact tokenless (σ.tokenless_advance i fun k u d here => registers ⟨k, u, d, here⟩)
  · exact tokenless (σ.tokenless_move i advances)

/-- Nor in any number of steps, by induction on them. -/
theorem count_run (σ : Switchboard) (es : List (Nat × Move)) (t : Token)
    : (σ.run es).answers.count (.token t) + σ.issued.count t
      ≤ σ.answers.count (.token t) + (σ.run es).issued.count t := by
  induction es generalizing σ with
  | nil => exact Nat.le_refl _
  | cons e rest ih =>
      have first := σ.count_step e t
      have later := ih (σ.step e)
      change ((σ.step e).run rest).answers.count (.token t) + _
        ≤ _ + ((σ.step e).run rest).issued.count t
      omega

/-- What calls answer of tokens is what is recorded of them. Each token is answered to somebody no more often
than it was given out. A registration that is over gives its token out, and answers it; an unregistration
answers whether it took its token out.
-/
structure AnswersAsRecorded (σ : Switchboard) : Prop where
  tokens : ∀ t, σ.answers.count (.token t) ≤ σ.issued.count t
  registers
    : ∀ i t d,
        σ.top i = some (.registering { inText := false } t d none)
        → (σ.step (i, .advance)).told Deed.answer? = σ.told Deed.answer? ++ [.token t]
          ∧ (σ.step (i, .advance)).issued = σ.issued ++ [t]
  registersInText
    : ∀ i t d k u next seat,
        σ.top i = some (.registering { inText := true } t d none)
        → (σ.pop i).top i = some (.running k u next seat)
        → (σ.step (i, .advance)).top i = some (.running k u next (seat.learn (.token t)))
          ∧ (σ.step (i, .advance)).issued = σ.issued ++ [t]
  unregisters
    : ∀ i t,
        (σ.step (i, .table (.remove t))).told Deed.answer?
            = σ.told Deed.answer? ++ [.flag (σ.delegates.contains t)]
          ∧ (σ.step (i, .table (.remove t))).removed
            = σ.removed ++ if σ.delegates.contains t then [t] else []
  unregistersInText
    : ∀ i k t u next seat,
        σ.top i = some (.running k t (.table (.remove u) next) seat)
        → (σ.step (i, .advance)).top i
            = some (.running k t next (seat.learn (.flag (σ.delegates.contains u))))
          ∧ (σ.step (i, .advance)).removed
            = σ.removed ++ if σ.delegates.contains u then [u] else []

theorem answersAsRecorded_run (settings : Settings) (threads : Nat → Thread)
    (es : List (Nat × Move))
    : ((start settings threads).run es).AnswersAsRecorded where
  tokens t :=
    Nat.le_trans (count_run (start settings threads) es t) (Nat.le_of_eq (Nat.zero_add _))
  registers _ _ _ here := ⟨register_answers here, issued_registers here⟩
  registersInText _ _ _ _ _ _ _ here below := ⟨register_learns here below, issued_registers here⟩
  unregisters := unregister_answers _
  unregistersInText _ _ _ _ _ _ here := unregister_learns here

end Switchboard

end Custody
