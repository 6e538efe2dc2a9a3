import Custody.Proofs.Ownership.Spending
import Custody.Proofs.Updates.Freeing

/-! What the native side does to what is counted on the bus: it takes some references to messages
and spends some, and leaves alone what messages and calls are about and what connections have sent.
-/

namespace Custody

/-- The message whose reference a free gives back. -/
def NativeHandle.message? : NativeHandle → Option (Ref Native.Message)
  | message r => some r
  | _ => none

namespace State

/-- The second state is the first after some references to messages were taken; messages and calls
stay, with their methods, and connections have sent the same.
-/
structure Keeps (taken : List (Ref Native.Message)) (s t : State) : Prop where
  refs : ∀ r, (t.message r).refs = (s.message r).refs + taken.count r
  messages
    : ∀ r,
        r.index < s.world.messages.size
        → r.index < t.world.messages.size ∧ (t.message r).method = (s.message r).method
  calls
    : ∀ r,
        r.index < s.world.calls.size
        → r.index < t.world.calls.size ∧ (t.call r).method = (s.call r).method
  lines : ∀ c, (t.connection c).sent = (s.connection c).sent
  planned : s.world.planned.callMethod = none → t.world.planned.callMethod = none

/-- The same, and some references were spent. -/
structure Effect (taken paid : List (Ref Native.Message)) (s t : State) : Prop
    extends Keeps taken s t where
  spent : ∀ r, t.world.spent (.message r) = s.world.spent (.message r) + paid.count r

variable {s t u : State} {taken taken' paid paid' : List (Ref Native.Message)}

theorem Keeps.of_same (messages : t.world.messages = s.world.messages)
    (calls : t.world.calls = s.world.calls)
    (connections : t.world.connections = s.world.connections)
    (planned : s.world.planned.callMethod = none → t.world.planned.callMethod = none)
    : Keeps [] s t where
  refs r := by rw [message, message, messages]; rfl
  messages r old := by rw [message, message, messages]; exact ⟨old, rfl⟩
  calls r old := by rw [call, call, calls]; exact ⟨old, rfl⟩
  lines c := by rw [connection, connection, connections]
  planned := planned

/-- What does not reach messages, calls, connections and the queue. -/
theorem Effect.of_same (messages : t.world.messages = s.world.messages)
    (calls : t.world.calls = s.world.calls)
    (connections : t.world.connections = s.world.connections)
    (queue : t.world.queue = s.world.queue)
    (planned : s.world.planned.callMethod = none → t.world.planned.callMethod = none)
    : Effect [] [] s t where
  toKeeps := .of_same messages calls connections planned
  spent r := by
    rw [World.spent, World.spent, World.freed, World.freed, World.queued, World.queued, messages,
      queue]
    rfl

theorem Effect.refl (s : State)
    : Effect [] [] s s :=
  .of_same rfl rfl rfl rfl id

theorem Keeps.trans (first : Keeps taken s t) (second : Keeps taken' t u)
    : Keeps (taken ++ taken') s u where
  refs r := by rw [second.refs, first.refs, List.count_append, Nat.add_assoc]
  messages r old := by
    obtain ⟨kept, same⟩ := first.messages r old
    obtain ⟨kept', same'⟩ := second.messages r kept
    exact ⟨kept', same'.trans same⟩
  calls r old := by
    obtain ⟨kept, same⟩ := first.calls r old
    obtain ⟨kept', same'⟩ := second.calls r kept
    exact ⟨kept', same'.trans same⟩
  lines c := (second.lines c).trans (first.lines c)
  planned := second.planned ∘ first.planned

theorem Effect.trans (first : Effect taken paid s t) (second : Effect taken' paid' t u)
    : Effect (taken ++ taken') (paid ++ paid') s u where
  toKeeps := first.toKeeps.trans second.toKeeps
  spent r := by rw [second.spent, first.spent, List.count_append, Nat.add_assoc]

/-- What comes after something that takes and spends nothing. -/
theorem Effect.after (second : Effect taken paid t u) (first : Effect [] [] s t)
    : Effect taken paid s u :=
  first.trans second

/-- What comes before something that takes and spends nothing. -/
theorem Effect.before (first : Effect taken paid s t) (second : Effect [] [] t u)
    : Effect taken paid s u := by
  have both := first.trans second
  rwa [List.append_nil, List.append_nil] at both

/-- An attempt that goes on takes and spends nothing if neither part does. -/
theorem Effect.andThen {ε α β : Type} {a : Attempt ε α} {next : α → State → Attempt ε β}
    (first : Effect [] [] s a.2) (second : ∀ x t, Effect [] [] t (next x t).2)
    : Effect [] [] s (a.andThen next).2 := by
  obtain ⟨x | e, t⟩ := a
  · exact first
  · exact (second _ t).after first

theorem keeps_setMessage {r : Ref Native.Message} {m : Native.Message}
    (refs : m.refs = (s.message r).refs + taken.count r)
    (others : ∀ q, q ≠ r → taken.count q = 0) (method : m.method = (s.message r).method)
    : Keeps taken s (s.setMessage r m) where
  refs q := by
    by_cases here : q = r
    · subst here
      rw [← refs]
      exact congrArg Native.Message.refs (s.world.messages.get_put_self q m)
    · rw [others q here]
      exact congrArg Native.Message.refs (s.world.messages.get_put_of_ne m here)
  messages q old :=
    ⟨Nat.lt_of_lt_of_le old (s.world.messages.size_le_put r m),
      s.world.messages.keeps_put method q⟩
  calls _ old := ⟨old, rfl⟩
  lines _ := rfl
  planned := id

theorem effect_setMessage {r : Ref Native.Message} {m : Native.Message}
    (refs : m.refs = (s.message r).refs) (unrefs : m.unrefs = (s.message r).unrefs)
    (method : m.method = (s.message r).method)
    : Effect [] [] s (s.setMessage r m) where
  toKeeps := keeps_setMessage refs (fun _ _ => rfl) method
  spent q :=
    congrArg (· + s.world.queued (.message q)) (s.world.messages.keeps_put unrefs q)

/-- One more reference to a message is taken. -/
theorem effect_addRef (s : State) (r : Ref Native.Message)
    : Effect [r] [] s (s.addRef r) where
  toKeeps := by
    refine keeps_setMessage ?_ (fun q other => ?_) rfl
    · rw [List.count_singleton_self]
    · exact List.count_eq_zero.2 fun member => other (List.mem_singleton.1 member)
  spent q := by
    have unrefs
        : Native.Message.unrefs { s.message r with refs := (s.message r).refs + 1 }
          = (s.message r).unrefs :=
      rfl
    exact congrArg (· + s.world.queued (.message q)) (s.world.messages.keeps_put unrefs q)

/-- A new message comes with the one reference that its maker holds. -/
theorem effect_newMessage (s : State) {m : Native.Message} (refs : m.refs = 1)
    (unrefs : m.unrefs = 0)
    : Effect [(s.newMessage m).1] [] s (s.newMessage m).2 where
  refs q := by
    show ((s.world.messages.alloc m).2.get q).refs = _
    rw [Heap.get_alloc]
    split
    · next new =>
        obtain rfl : q = (s.newMessage m).1 := congrArg Ref.mk new
        have blank : s.message (s.newMessage m).1 = default :=
          s.world.messages.get_of_size_le (Nat.le_refl _)
        rw [blank, refs, List.count_singleton_self]
        rfl
    · next other =>
        have absent : q ≠ (s.newMessage m).1 := fun same => other (congrArg Ref.index same)
        rw [List.count_eq_zero.2 fun member => absent (List.mem_singleton.1 member)]
        rfl
  messages q old :=
    ⟨Nat.lt_trans old (s.world.messages.size_lt_alloc m),
      congrArg Native.Message.method (s.world.messages.get_alloc_of_ne m old)⟩
  calls _ old := ⟨old, rfl⟩
  lines _ := rfl
  planned := id
  spent q :=
    congrArg (· + s.world.queued (.message q))
      (s.world.messages.keeps_alloc (f := Native.Message.unrefs) unrefs q)

theorem effect_setCall {r : Ref Native.PendingCall} {c : Native.PendingCall}
    (method : c.method = (s.call r).method)
    : Effect [] [] s (s.setCall r c) where
  toKeeps :=
    { refs := fun _ => rfl
      messages := fun _ old => ⟨old, rfl⟩
      calls := fun q old =>
        ⟨Nat.lt_of_lt_of_le old (s.world.calls.size_le_put r c), s.world.calls.keeps_put method q⟩
      lines := fun _ => rfl
      planned := id }
  spent _ := rfl

theorem effect_newCall (s : State) (c : Native.PendingCall)
    : Effect [] [] s (s.newCall c).2 where
  toKeeps :=
    { refs := fun _ => rfl
      messages := fun _ old => ⟨old, rfl⟩
      calls := fun _ old =>
        ⟨Nat.lt_trans old (s.world.calls.size_lt_alloc c),
          congrArg Native.PendingCall.method (s.world.calls.get_alloc_of_ne c old)⟩
      lines := fun _ => rfl
      planned := id }
  spent _ := rfl

theorem effect_setConnection {c : Ref Native.Connection} {line : Native.Connection}
    (sent : line.sent = (s.connection c).sent)
    : Effect [] [] s (s.setConnection c line) where
  toKeeps :=
    { refs := fun _ => rfl
      messages := fun _ old => ⟨old, rfl⟩
      calls := fun _ old => ⟨old, rfl⟩
      lines := s.world.connections.keeps_put sent
      planned := id }
  spent _ := rfl

theorem effect_newConnection (s : State)
    : Effect [] [] s (s.newConnection {}).2 where
  toKeeps :=
    { refs := fun _ => rfl
      messages := fun _ old => ⟨old, rfl⟩
      calls := fun _ old => ⟨old, rfl⟩
      lines := s.world.connections.keeps_alloc (f := Native.Connection.sent) rfl
      planned := id }
  spent _ := rfl

-----------------------------------------------------------------------------------------
-- Frees
-----------------------------------------------------------------------------------------

theorem keeps_free (s : State) (h : NativeHandle)
    : Keeps [] s (s.free h) := by
  cases h with
  | buffer | cursor => exact .of_same rfl rfl rfl id
  | message r => exact keeps_setMessage rfl (fun _ _ => rfl) rfl

/-- By induction on the frees. -/
theorem Freeing.keeps (frees : Freeing s t)
    : Keeps [] s t := by
  induction frees with
  | refl => exact .of_same rfl rfl rfl id
  | trans _ _ first second => exact first.trans second
  | free s h => exact keeps_free s h
  | waiting same =>
      rw [same]
      exact .of_same rfl rfl rfl id

theorem bill_message (h : Option NativeHandle) (r : Ref Native.Message)
    : bill h (.message r) = (h.bind NativeHandle.message?).toList.count r := by
  cases h with
  | none => rfl
  | some h =>
      cases h with
      | buffer | cursor => exact bill_of_ne fun same => by cases same
      | message q =>
          show _ = [q].count r
          by_cases same : q = r
          · rw [same, bill_self, List.count_singleton_self]
          · rw [bill_of_ne fun eq => same (NativeHandle.message.inj eq), List.count_singleton,
              if_neg (by simpa using same)]

/-- What keeps the rest and pays for one free. -/
theorem Keeps.effect {h : Option NativeHandle} (keeps : Keeps [] s t) (pays : Pays h s t)
    : Effect [] (h.bind NativeHandle.message?).toList s t where
  toKeeps := keeps
  spent r := by rw [pays.spent, bill_message]

/-- What a flush runs was spent before. -/
theorem effect_flush (s : State)
    : Effect [] [] s s.flush.2 :=
  (freeing_flush s).keeps.effect (h := none) (pays_flush s)

-----------------------------------------------------------------------------------------
-- Tame updates
-----------------------------------------------------------------------------------------

/-- What is tame takes and spends no reference; one case for each update. -/
theorem Tame.effect (tame : Tame s t)
    : Effect [] [] s t := by
  induction tame with
  | refl s => exact .refl s
  | trans _ _ first second => exact first.trans second
  | note | raise | written | setBuffer | setCursor => exact .of_same rfl rfl rfl rfl id
  | kindNumber s kind =>
      unfold State.kindNumber
      split <;> exact .of_same rfl rfl rfl rfl id
  | newBuffer s =>
      unfold State.newBuffer
      split <;> exact .of_same rfl rfl rfl rfl id
  | setMessage refs unrefs method _ => exact effect_setMessage refs unrefs method
  | setCall method => exact effect_setCall method
  | bodyCursors same =>
      rw [same]
      exact .of_same rfl rfl rfl rfl id
  | planned same named =>
      rw [same]
      exact .of_same rfl rfl rfl rfl named

theorem raw_of_live {α : Type} {raw : Option (Ref α)} {r : Ref α} (live : s.live raw = (.ok r, t))
    : raw = some r := by
  cases raw with
  | none => cases congrArg Prod.fst live
  | some q =>
      cases live
      rfl

end State

end Custody
