import Custody.Proofs.Delivery.Steps

/-! How steps pass references to messages on. A reference that is taken comes into the books, one
that is spent goes out of them, and in between it is owned by a wrapper or was handed out.
-/

namespace Custody

namespace Deed

/-- The reference that passed to whoever has the pointer. -/
def handedOut? : Deed → Option (Ref Native.Message)
  | handedOut r => some r
  | _ => none

/-- The reference that passed to a wrapper. -/
def takenOver? : Deed → Option (Ref Native.Message)
  | takenOver r => some r
  | _ => none

end Deed

namespace Switchboard

variable (σ : Switchboard)

/-- The references that wrappers own, those of other code and those of running delegates. -/
def owners : List (Ref Native.Message) :=
  σ.wrappers.flatMap Message.owes ++ σ.carried Frame.owes

/-- The references that passed from wrappers and makers to whoever has the pointer. -/
def handedOut : List (Ref Native.Message) :=
  σ.told Deed.handedOut?

/-- The references that passed from whoever has the pointer to wrappers. -/
def takenOver : List (Ref Native.Message) :=
  σ.told Deed.takenOver?

/-- How often a reference to a message was taken. -/
def refs (r : Ref Native.Message) : Nat :=
  (σ.world.messages.get r).refs

/-- How often a reference to a message was given back, or is going to be. -/
def spent (r : Ref Native.Message) : Nat :=
  σ.world.spent (.message r)

variable {σ} {ρ τ : Switchboard} {i : Nat} {f : Frame}
  {gain loss gain' loss' owned owned' taken paid : List (Ref Native.Message)}

/-- From the first switchboard to the second the books gained some references and lost others, and
some of those that were handed out passed to wrappers.
-/
structure Transfer (gain loss owned : List (Ref Native.Message)) (σ τ : Switchboard)
    : Prop where
  balance
    : ∀ r,
        τ.refs r + σ.spent r + σ.owners.count r + σ.handedOut.count r + loss.count r
        = σ.refs r + τ.spent r + τ.owners.count r + τ.handedOut.count r + gain.count r
  takenOver : τ.takenOver = σ.takenOver ++ owned
  handedOut : ∀ r, σ.handedOut.count r ≤ τ.handedOut.count r

theorem Transfer.trans (first : Transfer gain loss owned σ ρ)
    (second : Transfer gain' loss' owned' ρ τ)
    : Transfer (gain ++ gain') (loss ++ loss') (owned ++ owned') σ τ where
  balance r := by
    have before := first.balance r
    have after := second.balance r
    simp only [List.count_append]
    omega
  takenOver := by rw [second.takenOver, first.takenOver, List.append_assoc]
  handedOut r := Nat.le_trans (first.handedOut r) (second.handedOut r)

/-- The difference of gain and loss is what counts. -/
theorem Transfer.congr (transfer : Transfer gain loss owned σ τ)
    (same : ∀ r, gain.count r + loss'.count r = gain'.count r + loss.count r)
    : Transfer gain' loss' owned σ τ where
  balance r := by
    have counts := same r
    have balance := transfer.balance r
    omega
  takenOver := transfer.takenOver
  handedOut := transfer.handedOut

/-- What leaves wrappers, the record and what calls carry alone moves the counts of the world. -/
theorem Transfer.of_world (wrappers : τ.wrappers = σ.wrappers)
    (carried : (τ.carried Frame.owes).Perm (σ.carried Frame.owes))
    (handedOut : τ.handedOut = σ.handedOut) (takenOver : τ.takenOver = σ.takenOver)
    (refs : ∀ r, τ.refs r = σ.refs r + taken.count r)
    (spent : ∀ r, τ.spent r = σ.spent r + paid.count r)
    : Transfer taken paid [] σ τ where
  balance r := by
    have owners : τ.owners.count r = σ.owners.count r := by
      rw [owners, owners, wrappers, List.count_append, List.count_append, carried.count_eq]
    rw [refs, spent, owners, handedOut]
    omega
  takenOver := by rw [takenOver, List.append_nil]
  handedOut r := Nat.le_of_eq (by rw [handedOut])

theorem Transfer.refl (σ : Switchboard)
    : Transfer [] [] [] σ σ :=
  .of_world rfl (.refl _) rfl rfl (fun _ => rfl) fun _ => rfl

theorem transfer_record (σ : Switchboard) (deeds : List Deed)
    : Transfer [] (deeds.filterMap Deed.handedOut?) (deeds.filterMap Deed.takenOver?) σ
        (σ.record deeds) := by
  have handed : (σ.record deeds).handedOut = σ.handedOut ++ deeds.filterMap Deed.handedOut? :=
    List.filterMap_append
  refine ⟨fun r => ?_, List.filterMap_append, fun r => ?_⟩
  · rw [handed, List.count_append]
    show σ.refs r + σ.spent r + σ.owners.count r + _ + _
      = σ.refs r + σ.spent r + σ.owners.count r + _ + 0
    omega
  · rw [handed, List.count_append]
    exact Nat.le_add_right _ _

theorem transfer_push (σ : Switchboard) (i : Nat) (f : Frame)
    : Transfer [] f.owes [] σ (σ.push i f) where
  balance r := by
    show σ.refs r + σ.spent r + σ.owners.count r + σ.handedOut.count r + _
      = σ.refs r + σ.spent r + (σ.push i f).owners.count r + σ.handedOut.count r + 0
    rw [owners, owners, carried_push]
    simp only [List.count_append]
    show _ = _ + _ + (List.count r (σ.wrappers.flatMap Message.owes) + _) + _ + _
    omega
  takenOver := (List.append_nil _).symm
  handedOut _ := Nat.le_refl _

theorem transfer_pop (here : σ.top i = some f)
    : Transfer f.owes [] [] σ (σ.pop i) where
  balance r := by
    have popped := (carried_pop Frame.owes here).count_eq r
    show σ.refs r + σ.spent r + σ.owners.count r + σ.handedOut.count r + 0
      = σ.refs r + σ.spent r + (σ.pop i).owners.count r + σ.handedOut.count r + _
    rw [owners, owners, List.count_append, List.count_append, popped, List.count_append]
    show _ = _ + _ + (List.count r (σ.wrappers.flatMap Message.owes) + _) + _ + _
    omega
  takenOver := (List.append_nil _).symm
  handedOut _ := Nat.le_refl _

theorem transfer_wrappers (σ : Switchboard) {wrappers : List Message}
    (passed
      : ∀ r,
          (σ.wrappers.flatMap Message.owes).count r + loss.count r
          = (wrappers.flatMap Message.owes).count r + gain.count r)
    : Transfer gain loss [] σ { σ with wrappers } where
  balance r := by
    have counts := passed r
    show σ.refs r + σ.spent r + σ.owners.count r + σ.handedOut.count r + _
      = σ.refs r + σ.spent r + (wrappers.flatMap Message.owes ++ σ.carried Frame.owes).count r
        + σ.handedOut.count r + _
    rw [owners, List.count_append, List.count_append]
    omega
  takenOver := (List.append_nil _).symm
  handedOut _ := Nat.le_refl _

/-- By induction on the parts. -/
theorem Quiet.transfer (quiet : Quiet i gain loss owned σ τ)
    : Transfer gain loss owned σ τ := by
  induction quiet with
  | refl σ => exact .refl σ
  | trans _ _ first second => exact first.trans second
  | congr _ same transfer => exact transfer.congr same
  | state effect => exact .of_world rfl (.refl _) rfl rfl effect.refs effect.spent
  | reports => exact .of_world rfl (.refl _) rfl rfl (fun _ => rfl) fun _ => rfl
  | answer σ k a =>
      refine .of_world (wrappers_answer σ i k a)
        (carried_answer σ i Frame.owes k a Frame.owes_hear) (told_answer σ i k a fun _ _ => rfl)
        (told_answer σ i k a fun _ _ => rfl) (fun r => ?_) fun r => ?_
      · rw [refs, world_answer]
        rfl
      · rw [spent, world_answer]
        rfl
  | handOut σ refs =>
      have recorded := transfer_record σ (refs.map .handedOut)
      simpa [Function.comp_def, Deed.handedOut?, Deed.takenOver?] using recorded
  | takeOver σ refs =>
      have recorded := transfer_record σ (refs.map .takenOver)
      simpa [Function.comp_def, Deed.handedOut?, Deed.takenOver?] using recorded
  | wrappers σ passed => exact transfer_wrappers σ passed
  | pop here _ => exact transfer_pop here
  | @replace σ f g here _ _ _ =>
      have both := (transfer_pop here).trans (transfer_push (σ.pop i) i g)
      rwa [List.append_nil] at both

-----------------------------------------------------------------------------------------
-- Events
-----------------------------------------------------------------------------------------

/-- What is recorded of tokens is no news of references. -/
theorem transfer_token (σ : Switchboard) (delegates : Registry) (deeds : List TokenDeed)
    : Transfer [] [] [] σ ({ σ with delegates }.record (deeds.map .token)) := by
  have blind {see : Deed → Option (Ref Native.Message)} (none : ∀ d, see (.token d) = none)
      : (σ.history ++ deeds.map Deed.token).filterMap see = σ.history.filterMap see := by
    have unseen : deeds.filterMap (see ∘ Deed.token) = [] :=
      List.filterMap_eq_nil_iff.2 fun d _ => none d
    rw [List.filterMap_append, List.filterMap_map, unseen, List.append_nil]
  exact .of_world rfl (.refl _) (@blind Deed.handedOut? fun _ => rfl)
    (@blind Deed.takenOver? fun _ => rfl) (fun _ => rfl) fun _ => rfl

/-- Whether a message is sent or not, the native side has its reference already. -/
theorem sendNative_messages {s u : State} {c : Ref Native.Connection} {m : Ref Native.Message}
    {t : Token} {timeout : Double} {call : Option (Ref Native.PendingCall)}
    (answered : s.sendNative c m t timeout = (call, u))
    : u.world.messages = s.world.messages ∧ u.world.queue = s.world.queue := by
  unfold State.sendNative at answered
  dsimp only at answered
  split at answered
  · obtain ⟨-, rfl⟩ := Prod.mk.inj answered
    exact ⟨rfl, rfl⟩
  · obtain ⟨-, rfl⟩ := Prod.mk.inj answered
    exact ⟨rfl, rfl⟩

theorem Happens.transfer (happens : Happens i σ τ)
    : Transfer [] [] [] σ τ := by
  cases happens with
  | reserve k d post =>
      have taken := transfer_token σ σ.delegates.reserve.2 [.reserved σ.delegates.next]
      exact taken.trans (transfer_push _ i (.registering k σ.delegates.next d post))
  | @enlist k t d here =>
      have listed := transfer_token σ (σ.delegates.enlist t d) [.enlisted t d]
      exact listed.trans (transfer_pop (f := .registering k t d none) here)
  | @post k t d post here =>
      have listed := transfer_token σ (σ.delegates.enlist t d) [.enlisted t d]
      have popped := listed.trans (transfer_pop (f := .registering k t d (some post)) here)
      exact popped.trans (transfer_push _ i (.posting k t d post))
  | @takeOut t d deed _ _ => exact transfer_token σ (σ.delegates.erase t) [deed]
  | @invoke t d _ k m c =>
      have found := transfer_token σ (σ.delegates.erase t) [.invoked t d (Seat.start m c)]
      exact found.trans (transfer_push _ i (.running k t d (Seat.start m c)))
  | @send k t d post call s here accepted =>
      obtain ⟨messages, queue⟩ := sendNative_messages accepted
      have popped := transfer_pop (f := .posting k t d post) here
      have put : Transfer [] [] [] (σ.pop i) ((σ.pop i).putState i (s.note .sent)) := by
        refine .of_world rfl (.refl _) rfl rfl (fun r => ?_) fun r => ?_
        · exact congrArg (fun ms => (ms.get r).refs) messages
        · exact congrArg₂ (fun ms queue => (ms.get r).unrefs + queue.count (.message r)) messages
            queue
      exact (popped.trans put).trans (transfer_record _ [.sent (σ.sending t d post call)])
  | @make destination path interface method m s made =>
      have effect := Message.effect_methodCall destination path interface method (σ.state i)
      rw [made] at effect
      have wrapped := ((Quiet.state effect).even (quiet_add _ i m)).transfer
      refine wrapped.trans ?_
      cases m.raw with
      | none => exact transfer_record _ []
      | some r => exact transfer_record _ [.made r method]

theorem transfer_move (σ : Switchboard) (i : Nat) (move : Move)
    : Transfer [] (σ.takesOver i move) (σ.takesOver i move) σ (σ.move i move) := by
  have step := step_move σ i move
  generalize σ.takesOver i move = owned at step
  cases step with
  | quiet quiet => exact quiet.transfer
  | event before happens after =>
      exact (before.transfer.trans happens.transfer).trans after.transfer

end Switchboard

end Custody
