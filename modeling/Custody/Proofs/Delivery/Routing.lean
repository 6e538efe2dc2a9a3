import Custody.Proofs.Delivery.AtMostOnce
import Custody.Proofs.Delivery.Routes

/-! A reply reaches the delegate of the message that it answers: a connection keeps the token and
the pending call of each message that went out, the token names the delegate of this message and of
no other, and the pending call is about the method that the message calls.
-/

namespace Custody

/-- The delegate that waits under a token is taken, unless the token is zero. -/
theorem Registry.take?_of_mem {r : Registry} {t : Token} (named : t ≠ 0)
    (there : t ∈ r.entries.map (·.1))
    : ∃ d, r.take? t = some (d, r.erase t) := by
  obtain ⟨⟨u, d⟩, member, rfl⟩ := List.mem_map.1 there
  cases found : r.entries.lookup u with
  | none =>
      have absent := List.lookup_eq_none_iff.1 found (u, d) member
      simp at absent
  | some e => exact ⟨e, by rw [take?, if_neg named, found]; rfl⟩

namespace Switchboard

variable {σ ρ τ : Switchboard} {i : Nat} {t : Token}

/-- What holds of messages on their way at any time. -/
structure Routed (σ : Switchboard) : Prop where
  lines : ∀ c, σ.line c = (σ.sendings c).map fun s => (s.token, s.call)
  posts : σ.carried Frame.posts ⊆ σ.enlisted
  sent : ∀ s ∈ σ.sent, (s.token, s.delegate) ∈ σ.enlisted
  calls
    : ∀ s ∈ σ.sent,
        s.call.index < σ.world.calls.size
        ∧ ∀ method, s.method = some method → (σ.world.calls.get s.call).method = method
  made
    : ∀ e ∈ σ.made,
        e.1.index < σ.world.messages.size
        ∧ (σ.world.messages.get e.1).method = e.2
        ∧ ZeroTerminated.fits e.2 = true
  planned : σ.world.planned.callMethod = none

/-- The method that a message is recorded to call is one that it was made to call. -/
theorem mem_made_of_methodOf {r : Ref Native.Message} {method : String}
    (recorded : σ.methodOf r = some method)
    : (r, method) ∈ σ.made := by
  obtain ⟨deed, member, eq⟩ := List.exists_of_findSome?_eq_some recorded
  refine List.mem_filterMap.2 ⟨deed, member, ?_⟩
  cases deed with
  | made q name =>
      dsimp only at eq
      split at eq
      · next same =>
          cases eq
          rw [← same]
          rfl
      · cases eq
  | _ => cases eq

/-- What holds of messages that went out, and of those that were made, is kept with them. -/
theorem Routed.kept (routed : σ.Routed) (methods : σ.world.SameMethods τ.world)
    : (∀ s ∈ σ.sent,
        s.call.index < τ.world.calls.size
        ∧ ∀ method, s.method = some method → (τ.world.calls.get s.call).method = method)
      ∧ ∀ e ∈ σ.made,
        e.1.index < τ.world.messages.size
        ∧ (τ.world.messages.get e.1).method = e.2
        ∧ ZeroTerminated.fits e.2 = true := by
  constructor
  · intro s member
    obtain ⟨inside, about⟩ := routed.calls s member
    obtain ⟨kept, same⟩ := methods.calls s.call inside
    exact ⟨kept, fun method eq => same.trans (about method eq)⟩
  · intro e member
    obtain ⟨inside, about, fits⟩ := routed.made e member
    obtain ⟨kept, same⟩ := methods.messages e.1 inside
    exact ⟨kept, same.trans about, fits⟩

theorem Routed.same (routed : σ.Routed) (same : σ.SameSends τ) (listed : σ.enlisted ⊆ τ.enlisted)
    : τ.Routed := by
  obtain ⟨calls, made⟩ := routed.kept same.methods
  refine ⟨fun c => ?_, ?_, ?_, ?_, ?_, same.methods.planned routed.planned⟩
  · rw [same.lines, sendings, same.sent]
    exact routed.lines c
  · exact List.Subset.trans (List.Subset.trans same.posts routed.posts) listed
  · rw [same.sent]
    exact fun s member => listed (routed.sent s member)
  · rw [same.sent]
    exact calls
  · rw [same.made]
    exact made

theorem Routed.posted (routed : σ.Routed) {d : Delegate} (posts : Posts t d σ τ)
    (listed : σ.enlisted ⊆ τ.enlisted)
    : τ.Routed := by
  obtain ⟨calls, made⟩ := routed.kept posts.methods
  refine ⟨fun c => ?_, ?_, ?_, ?_, ?_, posts.methods.planned routed.planned⟩
  · rw [posts.lines, sendings, posts.sent]
    exact routed.lines c
  · exact List.Subset.trans posts.posts
      (List.cons_subset.2 ⟨posts.listed, List.Subset.trans routed.posts listed⟩)
  · rw [posts.sent]
    exact fun s member => listed (routed.sent s member)
  · rw [posts.sent]
    exact calls
  · rw [posts.made]
    exact made

theorem Routed.sends (routed : σ.Routed) {sending : Sending} (sends : Sends sending σ τ)
    (listed : σ.enlisted ⊆ τ.enlisted)
    : τ.Routed := by
  obtain ⟨calls, made⟩ := routed.kept sends.methods
  have kept : τ.carried Frame.posts ⊆ σ.enlisted := List.Subset.trans sends.posts routed.posts
  refine ⟨fun c => ?_, List.Subset.trans kept listed, ?_, ?_, ?_,
    sends.methods.planned routed.planned⟩
  · rw [sends.lines, sendings, sends.sent, List.filter_append, List.map_append, routed.lines c]
    congr 1
    by_cases same : sending.connection = c
    · simp [same]
    · simp [same]
  · rw [sends.sent]
    intro s member
    rcases List.mem_append.1 member with old | new
    · exact listed (routed.sent s old)
    · obtain rfl := List.mem_singleton.1 new
      exact listed (routed.posts sends.posted)
  · rw [sends.sent]
    intro s member
    rcases List.mem_append.1 member with old | new
    · exact calls s old
    · obtain rfl := List.mem_singleton.1 new
      refine ⟨sends.call, fun method eq => ?_⟩
      rw [sends.method] at eq
      obtain ⟨_, about, fits⟩ := routed.made _ (mem_made_of_methodOf eq)
      rw [sends.called, about, ZeroTerminated.kept, if_pos fits]
  · rw [sends.made]
    exact made

theorem Routed.makes (routed : σ.Routed) {r : Ref Native.Message} {method : String}
    (makes : Makes r method σ τ) (listed : σ.enlisted ⊆ τ.enlisted)
    : τ.Routed := by
  obtain ⟨calls, made⟩ := routed.kept makes.methods
  have kept : τ.carried Frame.posts ⊆ σ.enlisted := List.Subset.trans makes.posts routed.posts
  refine ⟨fun c => ?_, List.Subset.trans kept listed, ?_, ?_, ?_,
    makes.methods.planned routed.planned⟩
  · rw [makes.lines, sendings, makes.sent]
    exact routed.lines c
  · rw [makes.sent]
    exact fun s member => listed (routed.sent s member)
  · rw [makes.sent]
    exact calls
  · rw [makes.made]
    intro e member
    rcases List.mem_append.1 member with old | new
    · exact made e old
    · obtain rfl := List.mem_singleton.1 new
      exact ⟨makes.message, makes.about, makes.fits⟩

theorem Routed.happens (routed : σ.Routed) (happens : Happens i σ τ)
    : τ.Routed := by
  have listed : σ.enlisted ⊆ τ.enlisted := (happens.turn.deeds.filterMap _).subset
  rcases happens.route with same | ⟨t, d, posts⟩ | ⟨sending, sends⟩ | ⟨r, method, makes⟩
  · exact routed.same same listed
  · exact routed.posted posts listed
  · exact routed.sends sends listed
  · exact routed.makes makes listed

theorem Routed.quiet (routed : σ.Routed) {gain loss owned : List (Ref Native.Message)}
    (quiet : Quiet i gain loss owned σ τ)
    : τ.Routed := by
  have listed : τ.enlisted = σ.enlisted := congrArg (List.filterMap _) quiet.sameTokens.deeds
  exact routed.same quiet.sameSends (listed ▸ List.Subset.refl _)

theorem Routed.run (routed : σ.Routed) (es : List (Nat × Move))
    : (σ.run es).Routed :=
  keeps_run (fun quiet routed => routed.quiet quiet)
    (fun happens routed => routed.happens happens) routed es

-----------------------------------------------------------------------------------------
-- Deliveries
-----------------------------------------------------------------------------------------

/-- A delivery is a callback with the token and the pending call of the message that went out. -/
theorem Routed.deliver (routed : σ.Routed) {c : Ref Native.Connection} {place : Nat}
    {sending : Sending} (here : (σ.sendings c)[place]? = some sending) (i : Nat)
    (m : Option (Ref Native.Message))
    : σ.step (i, .deliver c place m)
      = σ.dispatch i { inText := false, native := true } sending.token m (some sending.call) := by
  have kept := congrArg (·[place]?) (routed.lines c)
  simp only [line, List.getElem?_map, here] at kept
  obtain ⟨s, there, eq⟩ := Option.map_eq_some_iff.1 kept
  obtain ⟨token, call⟩ := Prod.mk.inj eq
  have found : ((σ.state i).connection c).sent[place]? = some s := there
  rw [Switchboard.step, move, found, ← token, ← call]

end Switchboard

end Custody
