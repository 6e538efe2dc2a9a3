import Custody.Proofs.Delivery.Turns

/-! All that a step can do to messages on their way: nothing, or one of three things. A delegate is
in the table and its message can go out, a message goes out, or a message is made to call a method.
-/

namespace Custody

namespace Deed

def sent? : Deed → Option Sending
  | sent sending => some sending
  | _ => none

/-- A message that was made to call a method, and the method. -/
def made? : Deed → Option (Ref Native.Message × String)
  | made r method => some (r, method)
  | _ => none

end Deed

/-- Messages and calls stay, and are about the same methods. -/
structure World.SameMethods (w v : World) : Prop where
  messages
    : ∀ r,
        r.index < w.messages.size
        → r.index < v.messages.size ∧ (v.messages.get r).method = (w.messages.get r).method
  calls
    : ∀ r,
        r.index < w.calls.size
        → r.index < v.calls.size ∧ (v.calls.get r).method = (w.calls.get r).method
  planned : w.planned.callMethod = none → v.planned.callMethod = none

namespace World

variable {w v u : World}

theorem SameMethods.refl (w : World)
    : w.SameMethods w :=
  ⟨fun _ old => ⟨old, rfl⟩, fun _ old => ⟨old, rfl⟩, id⟩

theorem SameMethods.trans (first : w.SameMethods v) (second : v.SameMethods u)
    : w.SameMethods u where
  messages r old := by
    obtain ⟨kept, same⟩ := first.messages r old
    obtain ⟨kept', same'⟩ := second.messages r kept
    exact ⟨kept', same'.trans same⟩
  calls r old := by
    obtain ⟨kept, same⟩ := first.calls r old
    obtain ⟨kept', same'⟩ := second.calls r kept
    exact ⟨kept', same'.trans same⟩
  planned := second.planned ∘ first.planned

end World

namespace Switchboard

variable (σ : Switchboard)

/-- The messages that went out, oldest first. -/
def sent : List Sending :=
  σ.told Deed.sent?

/-- The messages that went out over a connection. -/
def sendings (c : Ref Native.Connection) : List Sending :=
  σ.sent.filter (·.connection = c)

/-- The messages that were made to call methods. -/
def made : List (Ref Native.Message × String) :=
  σ.told Deed.made?

/-- What a connection keeps of the messages that went out: the token and the pending call. -/
def line (c : Ref Native.Connection) : List (Token × Ref Native.PendingCall) :=
  (σ.world.connections.get c).sent.map fun s => (s.token, s.call)

-----------------------------------------------------------------------------------------
-- Steps that are about no message
-----------------------------------------------------------------------------------------

/-- The second switchboard is the first after something that brought no message on its way. -/
structure SameSends (σ τ : Switchboard) : Prop where
  methods : σ.world.SameMethods τ.world
  lines : ∀ c, τ.line c = σ.line c
  sent : τ.sent = σ.sent
  made : τ.made = σ.made
  posts : τ.carried Frame.posts ⊆ σ.carried Frame.posts

variable {σ} {ρ τ : Switchboard} {i : Nat} {f : Frame}

theorem SameSends.trans (first : σ.SameSends ρ) (second : ρ.SameSends τ)
    : σ.SameSends τ where
  methods := first.methods.trans second.methods
  lines c := (second.lines c).trans (first.lines c)
  sent := second.sent.trans first.sent
  made := second.made.trans first.made
  posts := List.Subset.trans second.posts first.posts

/-- What leaves the world, the calls and the record alone. -/
theorem SameSends.of_same (world : τ.world = σ.world) (history : τ.history = σ.history)
    (calls : τ.calls = σ.calls)
    : σ.SameSends τ := by
  have posts : τ.carried Frame.posts = σ.carried Frame.posts := congrArg (List.flatMap _) calls
  refine ⟨?_, fun c => ?_, congrArg (List.filterMap _) history, congrArg (List.filterMap _) history,
    ?_⟩
  · rw [world]
    exact .refl _
  · rw [line, world]
    rfl
  · rw [posts]
    exact List.Subset.refl _

theorem SameSends.refl (σ : Switchboard)
    : σ.SameSends σ :=
  .of_same rfl rfl rfl

theorem sameSends_putState (σ : Switchboard) (i : Nat) {s : State}
    {taken : List (Ref Native.Message)} (keeps : State.Keeps taken (σ.state i) s)
    : σ.SameSends (σ.putState i s) where
  methods := ⟨keeps.messages, keeps.calls, keeps.planned⟩
  lines c := congrArg (List.map _) (keeps.lines c)
  sent := rfl
  made := rfl
  posts := List.Subset.refl _

theorem sameSends_record (σ : Switchboard) {deeds : List Deed}
    (sent : deeds.filterMap Deed.sent? = []) (made : deeds.filterMap Deed.made? = [])
    : σ.SameSends (σ.record deeds) := by
  refine ⟨.refl _, fun _ => rfl, ?_, ?_, List.Subset.refl _⟩
  · rw [Switchboard.sent, told, record, List.filterMap_append, sent, List.append_nil]
    rfl
  · rw [Switchboard.made, told, record, List.filterMap_append, made, List.append_nil]
    rfl

theorem sameSends_push (σ : Switchboard) (i : Nat) (none : f.posts = [])
    : σ.SameSends (σ.push i f) := by
  refine ⟨.refl _, fun _ => rfl, rfl, rfl, ?_⟩
  rw [carried_push, none]
  exact List.Subset.refl _

theorem sameSends_pop (here : σ.top i = some f)
    : σ.SameSends (σ.pop i) := by
  refine ⟨.refl _, fun _ => rfl, rfl, rfl, fun t member => ?_⟩
  exact (carried_pop Frame.posts here).mem_iff.2 (List.mem_append_right _ member)

/-- What is recorded of references is no news of messages on their way. -/
theorem sameSends_refs (σ : Switchboard) (refs : List (Ref Native.Message))
    (see : Ref Native.Message → Deed) (sent : ∀ r, (see r).sent? = none)
    (made : ∀ r, (see r).made? = none)
    : σ.SameSends (σ.record (refs.map see)) := by
  apply sameSends_record
  · rw [List.filterMap_map, List.filterMap_eq_nil_iff]
    exact fun r _ => sent r
  · rw [List.filterMap_map, List.filterMap_eq_nil_iff]
    exact fun r _ => made r

/-- What is recorded of tokens is no news of messages on their way. -/
theorem sameSends_token (σ : Switchboard) (delegates : Registry) (deeds : List TokenDeed)
    : σ.SameSends ({ σ with delegates }.record (deeds.map .token)) := by
  refine SameSends.trans (ρ := { σ with delegates }) (.of_same rfl rfl rfl) ?_
  apply sameSends_record
  · simp [Function.comp_def, Deed.sent?]
  · simp [Function.comp_def, Deed.made?]

/-- By induction on the parts. -/
theorem Quiet.sameSends {gain loss owned : List (Ref Native.Message)}
    (quiet : Quiet i gain loss owned σ τ)
    : σ.SameSends τ := by
  induction quiet with
  | refl σ => exact .refl σ
  | trans _ _ first second => exact first.trans second
  | congr _ _ same => exact same
  | state effect => exact sameSends_putState _ i effect.toKeeps
  | reports | wrappers => exact .of_same rfl rfl rfl
  | answer σ k a =>
      have posts := (carried_answer σ i Frame.posts k a Frame.posts_hear).subset
      refine ⟨?_, fun c => ?_, told_answer σ i k a fun _ _ => rfl,
        told_answer σ i k a fun _ _ => rfl, posts⟩
      · rw [world_answer]
        exact .refl _
      · rw [line, line, world_answer]
  | handOut σ refs => exact sameSends_refs σ refs .handedOut (fun _ => rfl) fun _ => rfl
  | takeOver σ refs => exact sameSends_refs σ refs .takenOver (fun _ => rfl) fun _ => rfl
  | pop here _ => exact sameSends_pop here
  | replace here _ _ posts => exact (sameSends_pop here).trans (sameSends_push _ i posts)

end Switchboard

-----------------------------------------------------------------------------------------
-- The native side
-----------------------------------------------------------------------------------------

namespace State

variable {s u : State} {c : Ref Native.Connection} {m : Ref Native.Message} {t : Token}
  {timeout : Double} {call : Ref Native.PendingCall}

/-- A message that goes out is kept by its connection, with a new call of its method. -/
theorem sendNative_some (accepted : s.sendNative c m t timeout = (some call, u))
    : s.world.SameMethods u.world
      ∧ call.index < u.world.calls.size
      ∧ (u.call call).method = ZeroTerminated.kept (s.message m).method
      ∧ (∀ q, q ≠ c → (u.connection q).sent = (s.connection q).sent)
      ∧ (u.connection c).sent = (s.connection c).sent ++ [⟨t, call, timeout⟩] := by
  unfold sendNative at accepted
  dsimp only at accepted
  split at accepted
  · cases (Prod.mk.inj accepted).1
  · obtain ⟨same, rfl⟩ := Prod.mk.inj accepted
    obtain rfl := Option.some.inj same
    have called := effect_newCall s { method := ZeroTerminated.kept (s.message m).method }
    refine ⟨⟨called.messages, called.calls, called.planned⟩, ?_, ?_, ?_, ?_⟩
    · exact s.world.calls.size_lt_alloc _
    · exact congrArg Native.PendingCall.method (s.world.calls.get_alloc_self _)
    · intro q other
      exact congrArg Native.Connection.sent (s.world.connections.get_put_of_ne _ other)
    · exact congrArg Native.Connection.sent (s.world.connections.get_put_self c _)

end State

namespace Message

/-- A message that is made to call a method is a new one about this method. -/
theorem methodCall_made {destination path interface method : String} {s t : State} {m : Message}
    (made : methodCall destination path interface method s = (.ok m, t))
    : ∃ r,
        m.raw = some r
        ∧ r.index < t.world.messages.size
        ∧ (t.message r).method = method
        ∧ ZeroTerminated.fits method = true := by
  unfold methodCall at made
  split at made
  · cases made
  · next fits =>
      unfold State.makeMessage at made
      split at made
      · next r u eq =>
          split at eq
          · cases eq
          · cases eq
            cases made
            refine ⟨_, rfl, s.world.messages.size_lt_alloc _, ?_, ?_⟩
            · exact congrArg Native.Message.method (s.world.messages.get_alloc_self _)
            · simp at fits
              exact fits.2.2.2
      · cases made

end Message

namespace Switchboard

variable {σ τ : Switchboard} {i : Nat}

-----------------------------------------------------------------------------------------
-- Events
-----------------------------------------------------------------------------------------

/-- The delegate is in the table, and its message can go out. -/
structure Posts (t : Token) (d : Delegate) (σ τ : Switchboard) : Prop where
  methods : σ.world.SameMethods τ.world
  lines : ∀ c, τ.line c = σ.line c
  sent : τ.sent = σ.sent
  made : τ.made = σ.made
  posts : τ.carried Frame.posts ⊆ (t, d) :: σ.carried Frame.posts
  listed : (t, d) ∈ τ.enlisted

/-- A message went out for a delegate that was in the table. -/
structure Sends (sending : Sending) (σ τ : Switchboard) : Prop where
  methods : σ.world.SameMethods τ.world
  lines
    : ∀ c,
        τ.line c
        = σ.line c
          ++ if sending.connection = c then [(sending.token, sending.call)] else []
  sent : τ.sent = σ.sent ++ [sending]
  made : τ.made = σ.made
  posts : τ.carried Frame.posts ⊆ σ.carried Frame.posts
  posted : (sending.token, sending.delegate) ∈ σ.carried Frame.posts
  call : sending.call.index < τ.world.calls.size
  called
    : (τ.world.calls.get sending.call).method
      = ZeroTerminated.kept (σ.world.messages.get sending.message).method
  method : sending.method = σ.methodOf sending.message

/-- A message was made to call a method. -/
structure Makes (r : Ref Native.Message) (method : String) (σ τ : Switchboard) : Prop where
  methods : σ.world.SameMethods τ.world
  lines : ∀ c, τ.line c = σ.line c
  sent : τ.sent = σ.sent
  made : τ.made = σ.made ++ [(r, method)]
  posts : τ.carried Frame.posts ⊆ σ.carried Frame.posts
  message : r.index < τ.world.messages.size
  about : (τ.world.messages.get r).method = method
  fits : ZeroTerminated.fits method = true

/-- All that an event can do to messages on their way. -/
inductive Route (σ τ : Switchboard) : Prop
  | same (same : σ.SameSends τ)
  | posts (t : Token) (d : Delegate) (posts : Posts t d σ τ)
  | sends (sending : Sending) (sends : Sends sending σ τ)
  | makes (r : Ref Native.Message) (method : String) (makes : Makes r method σ τ)

/-- A message that the native side accepts goes out. -/
theorem sends_of_accepted {k : Asker} {t : Token} {d : Delegate} {post : Posting}
    (here : σ.top i = some (.posting k t d post)) {call : Ref Native.PendingCall} {s : State}
    (accepted
      : (σ.state i).sendNative post.connection post.message t post.timeout = (some call, s))
    : Sends (σ.sending t d post call) σ
        (((σ.pop i).putState i (s.note .sent)).record [.sent (σ.sending t d post call)]) := by
  obtain ⟨methods, inside, called, others, line⟩ := State.sendNative_some accepted
  refine ⟨⟨methods.messages, methods.calls, methods.planned⟩, fun c => ?_, ?_, ?_,
    (sameSends_pop here).posts, ?_, inside, called, rfl⟩
  · show (s.connection c).sent.map _ = _ ++ if post.connection = c then [(t, call)] else []
    by_cases same : post.connection = c
    · subst same
      rw [if_pos rfl, line, List.map_append]
      rfl
    · rw [if_neg same, List.append_nil]
      exact congrArg (List.map _) (others c (Ne.symm same))
  · exact List.filterMap_append
  · show (σ.history ++ [_]).filterMap Deed.made? = _
    rw [List.filterMap_append]
    exact List.append_nil _
  · exact mem_carried.2 ⟨i, _, mem_of_top here, List.mem_singleton_self _⟩

/-- Only a new message that is to call a method comes onto the record. -/
theorem makes_of_methodCall {destination path interface method : String} {m : Message}
    {s : State}
    (made : Message.methodCall destination path interface method (σ.state i) = (.ok m, s))
    : ∃ r, Makes r method σ
        ({ σ.putState i s with wrappers := σ.wrappers ++ [m] }.record
          (m.raw.toList.map (.made · method))) := by
  obtain ⟨r, raw, inside, about, fits⟩ := Message.methodCall_made made
  have put := sameSends_putState σ i
    (Message.effect_methodCall destination path interface method (σ.state i)).toKeeps
  rw [made] at put
  refine ⟨r, put.methods, put.lines, ?_, ?_, put.posts, inside, about, fits⟩
  · show (σ.history ++ m.raw.toList.map (Deed.made · method)).filterMap Deed.sent? = _
    rw [raw, List.filterMap_append]
    exact List.append_nil _
  · show (σ.history ++ m.raw.toList.map (Deed.made · method)).filterMap Deed.made? = _
    rw [raw, List.filterMap_append]
    rfl

theorem Happens.route (happens : Happens i σ τ)
    : σ.Route τ := by
  cases happens with
  | reserve k d post =>
      have taken := sameSends_token σ σ.delegates.reserve.2 [.reserved σ.delegates.next]
      exact .same (taken.trans (sameSends_push _ i rfl))
  | @enlist k t d here =>
      have listed := sameSends_token σ (σ.delegates.enlist t d) [.enlisted t d]
      exact .same (listed.trans (sameSends_pop here))
  | @post k t d post here =>
      have listed := sameSends_token σ (σ.delegates.enlist t d) [.enlisted t d]
      have popped := listed.trans (sameSends_pop here)
      refine .posts t d
        ⟨popped.methods, popped.lines, popped.sent, popped.made,
          List.cons_subset_cons _ popped.posts, ?_⟩
      show (t, d) ∈ (σ.record [.token (.enlisted t d)]).enlisted
      rw [enlisted, tokenDeeds_record, List.filterMap_append]
      exact List.mem_append_right _ (List.mem_singleton_self _)
  | @takeOut t d deed _ _ => exact .same (sameSends_token σ (σ.delegates.erase t) [deed])
  | @invoke t d _ k m c =>
      have found := sameSends_token σ (σ.delegates.erase t) [.invoked t d (Seat.start m c)]
      exact .same (found.trans (sameSends_push _ i rfl))
  | send here accepted => exact .sends _ (sends_of_accepted here accepted)
  | make made =>
      obtain ⟨r, makes⟩ := makes_of_methodCall made
      exact .makes r _ makes

theorem Route.sent (route : σ.Route τ)
    : σ.sent <+: τ.sent := by
  rcases route with same | ⟨t, d, posts⟩ | ⟨sending, sends⟩ | ⟨r, method, makes⟩
  · exact ⟨[], (List.append_nil _).trans same.sent.symm⟩
  · exact ⟨[], (List.append_nil _).trans posts.sent.symm⟩
  · exact ⟨_, sends.sent.symm⟩
  · exact ⟨[], (List.append_nil _).trans makes.sent.symm⟩

end Switchboard

end Custody
