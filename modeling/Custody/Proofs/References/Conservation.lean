import Mathlib.Data.List.Nodup
import Custody.Proofs.References.Transfers

/-! No reference to a message is lost or doubled: each was given back, waits to be, is owned by one
wrapper, or is held by whoever it was handed out to.
-/

namespace Custody.Switchboard

variable {σ τ : Switchboard} {owned : List (Ref Native.Message)}

/-- The references to a message that are held without a wrapper. -/
def raw (σ : Switchboard) (r : Ref Native.Message) : Nat :=
  σ.handedOut.count r - σ.takenOver.count r

/-- The rule for the callers: a wrapper that comes to own a message takes over a reference that
somebody holds.
-/
def Allows (σ : Switchboard) (e : Nat × Move) : Prop :=
  ∀ r ∈ σ.takesOver e.1 e.2, 0 < σ.raw r

instance (σ : Switchboard) (e : Nat × Move) : Decidable (σ.Allows e) :=
  inferInstanceAs (Decidable (∀ r ∈ σ.takesOver e.1 e.2, 0 < σ.raw r))

/-- Every step keeps the rule where it is taken. -/
def Lawful (σ : Switchboard) : List (Nat × Move) → Prop
  | [] => True
  | e :: es => σ.Allows e ∧ (σ.step e).Lawful es

instance decidableLawful : (σ : Switchboard) → (es : List (Nat × Move)) → Decidable (σ.Lawful es)
  | _, [] => isTrue trivial
  | σ, e :: es =>
      have := decidableLawful (σ.step e) es
      inferInstanceAs (Decidable (σ.Allows e ∧ (σ.step e).Lawful es))

/-- What holds of references at any time. -/
structure Balanced (σ : Switchboard) : Prop where
  balance
    : ∀ r,
        σ.refs r + σ.takenOver.count r
        = σ.spent r + σ.owners.count r + σ.handedOut.count r
  held : ∀ r, σ.takenOver.count r ≤ σ.handedOut.count r

theorem balanced_start (settings : Settings) (threads : Nat → Thread)
    : (start settings threads).Balanced :=
  ⟨fun _ => rfl, fun _ => Nat.le_refl _⟩

theorem Act.nodup_takesOver (a : Act) (m : Message)
    : (a.takesOver m).Nodup := by
  cases a with
  | own =>
      rw [Act.takesOver, Message.borrows]
      split
      · exact .nil
      · cases m.raw <;> simp
  | _ => exact .nil

/-- A move takes over one reference at most. -/
theorem nodup_takesOver (σ : Switchboard) (i : Nat) (move : Move)
    : (σ.takesOver i move).Nodup := by
  cases move with
  | advance =>
      rw [takesOver]
      cases σ.top i with
      | none => exact .nil
      | some f =>
          cases f with
          | running k t text seat =>
              cases text with
              | act a next => exact Act.nodup_takesOver a seat.reply
              | _ => exact .nil
          | _ => exact .nil
  | adopt raw own =>
      rw [takesOver, Message.owes]
      split
      · cases raw <;> simp
      · exact .nil
  | act place call a =>
      rw [takesOver]
      cases σ.wrappers[place]? with
      | none => exact .nil
      | some w => exact Act.nodup_takesOver a w
  | _ => exact .nil

/-- A reference that is taken over was held, and is not held any more. -/
theorem Balanced.transfer (balanced : σ.Balanced) (transfer : Transfer [] owned owned σ τ)
    (single : owned.Nodup) (allowed : ∀ r ∈ owned, 0 < σ.raw r)
    : τ.Balanced where
  balance r := by
    have before := balanced.balance r
    have after := transfer.balance r
    rw [transfer.takenOver, List.count_append]
    rw [List.count_nil] at after
    omega
  held r := by
    have before := balanced.held r
    have grown := transfer.handedOut r
    rw [transfer.takenOver, List.count_append]
    by_cases member : r ∈ owned
    · have held := allowed r member
      have once := List.nodup_iff_count_le_one.1 single r
      rw [raw] at held
      omega
    · rw [List.count_eq_zero.2 member]
      omega

theorem Balanced.step (balanced : σ.Balanced) {e : Nat × Move} (allowed : σ.Allows e)
    : (σ.step e).Balanced :=
  balanced.transfer (transfer_move σ e.1 e.2) (nodup_takesOver σ e.1 e.2) allowed

/-- By induction on the steps. -/
theorem Balanced.run (balanced : σ.Balanced) {es : List (Nat × Move)} (lawful : σ.Lawful es)
    : (σ.run es).Balanced := by
  induction es generalizing σ with
  | nil => exact balanced
  | cons e rest ih => exact ih (balanced.step lawful.1) lawful.2

/-- Every reference that was taken to a message was given back, waits in the queue to be, is owned
by a wrapper of other code or by the reply of a delegate that took it over, or is held by whoever it
was handed out to. So no more references are given back than were taken.
-/
theorem references_conserved {settings : Settings} {threads : Nat → Thread}
    {es : List (Nat × Move)} (lawful : (start settings threads).Lawful es)
    : let σ := (start settings threads).run es
      ∀ r,
        (σ.world.messages.get r).refs
          = (σ.world.messages.get r).unrefs + σ.owners.count r + σ.world.queue.count (.message r)
            + σ.raw r
        ∧ σ.takenOver.count r ≤ σ.handedOut.count r
        ∧ (σ.world.messages.get r).unrefs ≤ (σ.world.messages.get r).refs := by
  have balanced := (balanced_start settings threads).run lawful
  dsimp only
  generalize (start settings threads).run es = σ at balanced
  intro r
  have balance := balanced.balance r
  have held := balanced.held r
  have spent
      : σ.spent r = (σ.world.messages.get r).unrefs + σ.world.queue.count (.message r) :=
    rfl
  have refs : σ.refs r = (σ.world.messages.get r).refs := rfl
  rw [raw]
  omega

/-- A message is sent twice, and the native side refuses the first. Away from the main loop the
second is answered with a native message; the delegate takes a reference to it and drops it, and
then takes over the one that its maker holds.
-/
def answered : List (Nat × Move) :=
  [(0, .nativeMessage .empty), (0, .nativeConnection), (0, .methodCall "d" "p" "i" "m"),
    (0, .newRef 0), (0, .failNextSend ⟨0⟩), (0, .send ⟨some ⟨0⟩⟩ 0 default (.finish .ok)),
    (0, .advance), (0, .advance), (0, .advance),
    (0, .send ⟨some ⟨0⟩⟩ 0 default (.act .newRef (.act .own (.finish .ok)))), (0, .advance),
    (0, .advance), (1, .setMainLoop false), (1, .deliver ⟨0⟩ 0 (some ⟨0⟩)), (1, .advance),
    (1, .advance), (1, .advance), (1, .advance)]

theorem answered_references_conserved
    : let σ := (start {} fun _ => {}).run answered
      (start {} fun _ => {}).Lawful answered
      ∧ σ.raw ⟨0⟩ = 0
      ∧ σ.raw ⟨1⟩ = 2
      ∧ σ.world.queue = [.message ⟨0⟩, .message ⟨0⟩]
      ∧ (σ.world.messages.get ⟨0⟩).refs = 2
      ∧ (σ.world.messages.get ⟨0⟩).unrefs ≤ (σ.world.messages.get ⟨0⟩).refs := by
  have lawful : (start {} fun _ => {}).Lawful answered := by decide +kernel
  have conserved := references_conserved lawful
  exact ⟨lawful, rfl, rfl, rfl, rfl, (conserved ⟨0⟩).2.2⟩

end Custody.Switchboard
