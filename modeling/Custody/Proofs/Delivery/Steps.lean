import Mathlib.Data.List.Perm.Basic
import Custody.Proofs.Delivery.Calls
import Custody.Proofs.References.Operations

/-! What a step is made of. Most of it is quiet: it works on the state as the operations do, passes
references to messages on, and lets calls go on or answer. At most once in a step something else
happens, to a token or to a message on its way. Every fact about steps is shown of the quiet parts
and of the events.
-/

namespace Custody

namespace Registry

variable {r rest : Registry} {t : Token} {d : Delegate}

theorem mem_of_lookup {entries : List (Token × Delegate)} (found : entries.lookup t = some d)
    : (t, d) ∈ entries := by
  obtain ⟨front, back, rfl, _⟩ := List.lookup_eq_some_iff.1 found
  simp

/-- A delegate that is taken was there under its token, and the token is erased. -/
theorem take?_eq_some (taken : r.take? t = some (d, rest))
    : (t, d) ∈ r.entries ∧ rest = r.erase t := by
  unfold take? at taken
  split at taken
  · contradiction
  · simp only [Option.map_eq_some_iff, Prod.mk.injEq] at taken
    obtain ⟨d', found, rfl, rfl⟩ := taken
    exact ⟨mem_of_lookup found, rfl⟩

theorem contains_iff
    : r.contains t = true ↔ t ∈ r.entries.map (·.1) := by
  simp [contains]

/-- A token that is not there has nothing to erase. -/
theorem erase_of_not_mem (absent : t ∉ r.entries.map (·.1))
    : r.erase t = r := by
  have kept : r.entries.filter (·.1 != t) = r.entries := by
    refine List.filter_eq_self.2 fun e member => ?_
    have other : e.1 ≠ t := fun same => absent (same ▸ List.mem_map_of_mem member)
    simpa using other
  rw [erase, kept]

/-- No delegate is taken under a token that is not there. -/
theorem take?_of_not_mem (absent : t ∉ r.entries.map (·.1))
    : r.take? t = none := by
  cases taken : r.take? t with
  | none => rfl
  | some e => exact absurd (List.mem_map_of_mem (take?_eq_some taken).1) absent

end Registry

namespace Switchboard

-----------------------------------------------------------------------------------------
-- The quiet parts of a step
-----------------------------------------------------------------------------------------

/-- What brings no news of tokens, or of messages on their way. The references that it gains, and
those that it loses, are counted; some pass to wrappers from whoever has the pointer.
-/
inductive Quiet (i : Nat)
    : (gain loss owned : List (Ref Native.Message)) → Switchboard → Switchboard → Prop
  | refl (σ : Switchboard) : Quiet i [] [] [] σ σ
  | trans {σ ρ τ : Switchboard} {gain loss gain' loss' owned owned' : List (Ref Native.Message)}
      (first : Quiet i gain loss owned σ ρ) (second : Quiet i gain' loss' owned' ρ τ)
    : Quiet i (gain ++ gain') (loss ++ loss') (owned ++ owned') σ τ
  /-- The difference of gain and loss is what counts. -/
  | congr {σ τ : Switchboard} {gain loss gain' loss' owned : List (Ref Native.Message)}
      (quiet : Quiet i gain loss owned σ τ)
      (same : ∀ r, gain.count r + loss'.count r = gain'.count r + loss.count r)
    : Quiet i gain' loss' owned σ τ
  | state {σ : Switchboard} {s : State} {gain loss : List (Ref Native.Message)}
      (effect : State.Effect gain loss (σ.state i) s)
    : Quiet i gain loss [] σ (σ.putState i s)
  | reports (σ : Switchboard) (reports : List (List Answer))
    : Quiet i [] [] [] σ { σ with reports }
  | answer (σ : Switchboard) (k : Asker) (a : Except BusError Answer)
    : Quiet i [] [] [] σ (σ.answer i k a)
  | handOut (σ : Switchboard) (refs : List (Ref Native.Message))
    : Quiet i [] refs [] σ (σ.record (refs.map .handedOut))
  | takeOver (σ : Switchboard) (refs : List (Ref Native.Message))
    : Quiet i [] [] refs σ (σ.record (refs.map .takenOver))
  | wrappers (σ : Switchboard) {wrappers : List Message}
      {gain loss : List (Ref Native.Message)}
      (passed
        : ∀ r,
            (σ.wrappers.flatMap Message.owes).count r + loss.count r
            = (wrappers.flatMap Message.owes).count r + gain.count r)
    : Quiet i gain loss [] σ { σ with wrappers }
  | pop {σ : Switchboard} {f : Frame} (here : σ.top i = some f) (reserves : f.reserves = [])
    : Quiet i f.owes [] [] σ (σ.pop i)
  | replace {σ : Switchboard} {f g : Frame} (here : σ.top i = some f)
      (reserves : g.reserves = f.reserves) (runs : g.runs = f.runs) (posts : g.posts = [])
    : Quiet i f.owes g.owes [] σ (σ.replace i g)

section Quiet

variable {σ ρ τ : Switchboard} {i : Nat} {f : Frame}
  {gain loss owned : List (Ref Native.Message)}

/-- What comes before something that leaves the references alone. -/
theorem Quiet.before (first : Quiet i gain loss owned σ ρ) (second : Quiet i [] [] [] ρ τ)
    : Quiet i gain loss owned σ τ := by
  have both := first.trans second
  simp only [List.append_nil] at both
  exact both

/-- What is gained first and lost then. -/
theorem Quiet.even (first : Quiet i gain [] [] σ ρ) (second : Quiet i [] gain [] ρ τ)
    : Quiet i [] [] [] σ τ :=
  (first.trans second).congr fun r => by
    rw [List.append_nil, List.nil_append]
    exact Nat.add_comm _ _

/-- A call that goes on as one with the same reply. -/
theorem Quiet.goes_on (first : Quiet i gain loss owned σ ρ) (here : ρ.top i = some f) {g : Frame}
    (reserves : g.reserves = f.reserves) (runs : g.runs = f.runs) (posts : g.posts = [])
    (owes : g.owes = f.owes)
    : Quiet i gain loss owned σ (ρ.replace i g) :=
  first.before <| (Quiet.replace here reserves runs posts).congr fun r => by
    rw [owes]
    exact Nat.add_comm _ _

theorem quiet_note (σ : Switchboard) (i : Nat) (e : Event)
    : Quiet i [] [] [] σ (σ.putState i ((σ.state i).note e)) :=
  .state (State.Tame.note _ e).effect

theorem quiet_add (σ : Switchboard) (i : Nat) (w : Message)
    : Quiet i [] w.owes [] σ { σ with wrappers := σ.wrappers ++ [w] } := by
  refine .wrappers σ fun r => ?_
  rw [List.flatMap_append, List.flatMap_singleton, List.count_append]
  rfl

theorem quiet_erase {place : Nat} {w : Message} (here : σ.wrappers[place]? = some w)
    : Quiet i w.owes [] [] σ { σ with wrappers := σ.wrappers.eraseIdx place } := by
  obtain ⟨inside, rfl⟩ := List.getElem?_eq_some_iff.1 here
  refine .wrappers σ fun r => ?_
  have parted := (List.getElem_cons_eraseIdx_perm inside).flatMap_right Message.owes
  have counts := parted.count_eq r
  rw [List.flatMap_cons, List.count_append] at counts
  rw [List.count_nil]
  omega

theorem quiet_set {place : Nat} {w : Message} (here : σ.wrappers[place]? = some w)
    (w' : Message)
    : Quiet i w.owes w'.owes [] σ { σ with wrappers := σ.wrappers.set place w' } := by
  obtain ⟨inside, rfl⟩ := List.getElem?_eq_some_iff.1 here
  refine .wrappers σ fun r => ?_
  have parted := (List.getElem_cons_eraseIdx_perm inside).flatMap_right Message.owes
  have joined := (List.set_perm_cons_eraseIdx inside w').flatMap_right Message.owes
  have before := parted.count_eq r
  have after := joined.count_eq r
  rw [List.flatMap_cons, List.count_append] at before after
  omega

/-- An act on a reply, or on a wrapper: what is gained and lost accounts for what it owns then. -/
theorem quiet_perform (σ : Switchboard) (i : Nat) (seat : Seat) (a : Act)
    : ∃ gain loss,
        Quiet i gain loss (a.takesOver seat.reply) σ
            ((σ.putState i (seat.perform (σ.state i) a).2.2).record (a.deeds seat.reply))
        ∧ ∀ r,
          gain.count r + seat.reply.owes.count r + (a.takesOver seat.reply).count r
          = loss.count r + (seat.perform (σ.state i) a).2.1.reply.owes.count r := by
  obtain ⟨taken, paid, effect, accounts⟩ := seat.perform_effect (σ.state i) a
  have acted := (Quiet.state (i := i) effect).trans
    ((Quiet.takeOver _ (a.takesOver seat.reply)).trans (.handOut _ (a.handsOut seat.reply)))
  rw [← record_append] at acted
  simp only [List.append_nil, List.nil_append] at acted
  refine ⟨_, _, acted, fun r => ?_⟩
  have counts := accounts.count_eq r
  simp only [List.count_append] at counts ⊢
  omega

end Quiet

-----------------------------------------------------------------------------------------
-- Events
-----------------------------------------------------------------------------------------

/-- What happens to a token, or to a message on its way. -/
inductive Happens (i : Nat) : Switchboard → Switchboard → Prop
  /-- A registration takes its token. -/
  | reserve (σ : Switchboard) (k : Asker) (d : Delegate) (post : Option Posting)
    : Happens i σ (σ.register i k d post)
  /-- A registration puts its delegate into the table, and is over. -/
  | enlist {σ : Switchboard} {k : Asker} {t : Token} {d : Delegate}
      (here : σ.top i = some (.registering k t d none))
    : Happens i σ
        (({ σ with delegates := σ.delegates.enlist t d }.record [.token (.enlisted t d)]).pop i)
  /-- A registration puts its delegate into the table, and its message can go out. -/
  | post {σ : Switchboard} {k : Asker} {t : Token} {d : Delegate} {post : Posting}
      (here : σ.top i = some (.registering k t d (some post)))
    : Happens i σ
        (({ σ with delegates := σ.delegates.enlist t d }.record
            [.token (.enlisted t d)]).replace i (.posting k t d post))
  /-- A token is taken out of the table, and its delegate does not run. -/
  | takeOut {σ : Switchboard} {t : Token} {d : Delegate} {deed : TokenDeed}
      (there : (t, d) ∈ σ.delegates.entries) (how : deed = .removed t ∨ deed = .rejected t)
    : Happens i σ ({ σ with delegates := σ.delegates.erase t }.record [.token deed])
  /-- A token is taken out of the table, and its delegate begins to run. -/
  | invoke {σ : Switchboard} {t : Token} {d : Delegate} (there : (t, d) ∈ σ.delegates.entries)
      (k : Asker) (m : Ref Native.Message) (c : Ref Native.PendingCall)
    : Happens i σ
        (({ σ with delegates := σ.delegates.erase t }.record
            [.token (.invoked t d (Seat.start m c))]).push i
          (.running k t d (Seat.start m c)))
  /-- The native side accepts a message. -/
  | send {σ : Switchboard} {k : Asker} {t : Token} {d : Delegate} {post : Posting}
      {call : Ref Native.PendingCall} {s : State}
      (here : σ.top i = some (.posting k t d post))
      (accepted
        : (σ.state i).sendNative post.connection post.message t post.timeout = (some call, s))
    : Happens i σ
        (((σ.pop i).putState i (s.note .sent)).record [.sent (σ.sending t d post call)])
  /-- A message is made to call a method. -/
  | make {σ : Switchboard} {destination path interface method : String} {m : Message} {s : State}
      (made
        : Message.methodCall destination path interface method (σ.state i) = (.ok m, s))
    : Happens i σ
        ({ σ.putState i s with wrappers := σ.wrappers ++ [m] }.record
          (m.raw.toList.map (.made · method)))

/-- What a step is made of: quiet parts, and one event at most. -/
inductive Step (i : Nat)
    : (owned : List (Ref Native.Message)) → Switchboard → Switchboard → Prop
  | quiet {σ τ : Switchboard} {owned : List (Ref Native.Message)}
      (quiet : Quiet i [] owned owned σ τ)
    : Step i owned σ τ
  | event {σ ρ υ τ : Switchboard} (before : Quiet i [] [] [] σ ρ) (happens : Happens i ρ υ)
      (after : Quiet i [] [] [] υ τ)
    : Step i [] σ τ

variable {σ ρ τ : Switchboard} {i : Nat} {owned : List (Ref Native.Message)}

theorem Step.after (step : Step i owned ρ τ) (before : Quiet i [] [] [] σ ρ)
    : Step i owned σ τ := by
  cases step with
  | quiet quiet => exact .quiet (before.trans quiet)
  | event first happens last => exact .event (before.before first) happens last

theorem Step.before (step : Step i owned σ ρ) (after : Quiet i [] [] [] ρ τ)
    : Step i owned σ τ := by
  cases step with
  | quiet quiet => exact .quiet (quiet.before after)
  | event first happens last => exact .event first happens (last.before after)

theorem Happens.step (happens : Happens i σ τ)
    : Step i [] σ τ :=
  .event (.refl σ) happens (.refl τ)

-----------------------------------------------------------------------------------------
-- Calls
-----------------------------------------------------------------------------------------

theorem step_tableAct (σ : Switchboard) (i : Nat) (act : TableAct)
    : Step i [] σ (σ.tableAct act) := by
  cases act with
  | count | contains => exact .quiet (.handOut σ [])
  | remove t =>
      cases there : σ.delegates.contains t with
      | true =>
          obtain ⟨⟨_, d⟩, member, rfl⟩ := List.mem_map.1 (Registry.contains_iff.1 there)
          rw [tableAct, TableAct.deeds, there]
          exact (Happens.takeOut member (.inl rfl)).step
      | false =>
          have absent : t ∉ σ.delegates.entries.map (·.1) := fun member => by
            simp [Registry.contains_iff.2 member] at there
          rw [tableAct, TableAct.deeds, there]
          show Step i [] σ ({ σ with delegates := σ.delegates.erase t }.record [])
          rw [Registry.erase_of_not_mem absent]
          exact .quiet (.handOut σ [])

/-- A delegate that runs was found under its token first. -/
theorem step_dispatch (σ : Switchboard) (i : Nat) (k : Asker) (t : Token)
    (m : Option (Ref Native.Message)) (c : Option (Ref Native.PendingCall))
    : Step i [] σ (σ.dispatch i k t m c) := by
  unfold dispatch
  split
  · exact .quiet ((quiet_note σ i _).trans (.answer _ k _))
  · next d delegates taken =>
      obtain ⟨there, rfl⟩ := Registry.take?_eq_some taken
      split
      · next m c => exact (Happens.invoke there k m c).step
      · refine .event (.refl σ) (.takeOut there (.inr rfl)) ?_
        exact (quiet_note _ i _).trans (.answer _ k _)

/-- A message that is sent loses the wrapper that it came with; the reference is spent or passes on.
-/
theorem step_send {m : Message} (came : Quiet i m.owes [] [] σ ρ) (k : Asker) (c : Connection)
    (timeout : Double) (d : Delegate)
    : Step i [] σ (ρ.send i k c m timeout d) := by
  have dropped {s : State} (effect : State.Effect [] [] (ρ.state i) s) (e : BusError)
      : Step i [] σ ((ρ.putState i (m.drop s)).answer i k (.error e)) :=
    .quiet ((came.even (.state ((m.effect_drop s).after effect))).before (.answer _ k _))
  have first := (State.tame_live (ρ.state i) c.raw).effect
  unfold send
  split
  · next eq =>
      rw [eq] at first
      exact dropped first _
  · next line s eq =>
      rw [eq] at first
      have second := (State.tame_live s m.raw).effect.after first
      split
      · next eq =>
          rw [eq] at second
          exact dropped second _
      · next r t eq =>
          rw [eq] at second
          have raw := State.raw_of_live eq
          have taken : State.Effect m.borrows [] (ρ.state i) (if m.own then t else t.addRef r) := by
            have borrows : m.borrows = if m.own then [] else [r] := by
              rw [Message.borrows, raw]
              rfl
            rw [borrows]
            split
            · exact second
            · exact (State.effect_addRef t r).after second
          have handed : m.borrows ++ m.owes = [r] := by
            rw [Message.borrows, Message.owes, raw]
            cases m.own <;> rfl
          have passed : Quiet i [] [] [] σ
              ((ρ.putState i (if m.own then t else t.addRef r)).record [.handedOut r]) := by
            refine ((came.trans (.state taken)).trans (.handOut _ [r])).congr fun q => ?_
            rw [← handed]
            simp only [List.count_append, List.count_nil]
            omega
          exact (Happens.reserve _ k d (some ⟨line, r, timeout⟩)).step.after passed

/-- The reference that the next step of a delegate's text passes to its reply. -/
def Delegate.takesOver (seat : Seat) : Delegate → List (Ref Native.Message)
  | .act a _ => a.takesOver seat.reply
  | _ => []

/-- A delegate takes the next step of its text. -/
theorem step_follow {k : Asker} {t : Token} {seat : Seat} {text : Delegate}
    (here : σ.top i = some (.running k t text seat))
    : Step i (Delegate.takesOver seat text) σ (σ.follow i k t seat text) := by
  cases text with
  | finish ending => exact .quiet (.goes_on (.refl σ) here rfl rfl rfl rfl)
  | act act next =>
      obtain ⟨gain, loss, performed, counts⟩ := quiet_perform σ i seat act
      rw [follow]
      generalize seat.perform (σ.state i) act = p at performed counts
      obtain ⟨answer, after, s⟩ := p
      dsimp only at performed counts
      have replaced {g : Frame} (runs : g.runs = [t]) (reserves : g.reserves = [])
          (posts : g.posts = []) (owes : g.owes = after.reply.owes)
          : Step i (act.takesOver seat.reply) σ
              (((σ.putState i s).record (act.deeds seat.reply)).replace i g) := by
        have both := performed.trans (.replace here reserves runs posts)
        rw [List.append_nil] at both
        refine .quiet (both.congr fun r => ?_)
        have count := counts r
        rw [owes, List.count_append, List.count_append]
        show _ + seat.reply.owes.count r + _ = 0 + _
        omega
      cases answer with
      | ok a => exact replaced rfl rfl rfl rfl
      | error e => exact replaced rfl rfl rfl rfl
  | table act next =>
      exact (step_tableAct σ i act).before
        (.goes_on (.refl (σ.tableAct act)) here rfl rfl rfl rfl)
  | register child next =>
      exact (Happens.reserve _ _ child none).step.after (.goes_on (.refl σ) here rfl rfl rfl rfl)
  | dispatch u next =>
      exact (step_dispatch _ i _ u _ _).after (.goes_on (.refl σ) here rfl rfl rfl rfl)
  | callback u next =>
      exact (step_dispatch _ i _ u _ _).after (.goes_on (.refl σ) here rfl rfl rfl rfl)
  | forward c timeout child next =>
      rw [follow]
      have taken := Message.effect_newRef seat.reply (σ.state i)
      generalize Message.newRef seat.reply (σ.state i) = made at taken
      obtain ⟨e | m, s⟩ := made
      · exact .quiet ((Quiet.state taken).goes_on here rfl rfl rfl rfl)
      · have kept := (Quiet.state taken).goes_on (g := .running k t next seat) here rfl rfl rfl rfl
        exact step_send kept _ c timeout child

-----------------------------------------------------------------------------------------
-- Every step
-----------------------------------------------------------------------------------------

/-- What the next step of a call takes over goes to a reply. -/
def Frame.takesOver : Frame → List (Ref Native.Message)
  | .running _ _ text seat => Delegate.takesOver seat text
  | _ => []

/-- The references that a move passes from whoever has the pointer to wrappers. -/
def takesOver (σ : Switchboard) (i : Nat) : Move → List (Ref Native.Message)
  | .advance => (σ.top i).elim [] Frame.takesOver
  | .adopt raw own => Message.owes { raw, own }
  | .act place _ a => (σ.wrappers[place]?).elim [] a.takesOver
  | _ => []

/-- A send that is refused changes only what waits for the connection. -/
theorem effect_sendNative_none {s u : State} {c : Ref Native.Connection}
    {m : Ref Native.Message} {t : Token} {timeout : Double}
    (refused : s.sendNative c m t timeout = (none, u))
    : State.Effect [] [] s u := by
  unfold State.sendNative at refused
  dsimp only at refused
  split at refused
  · obtain rfl := (Prod.mk.inj refused).2
    exact State.effect_setConnection rfl
  · cases (Prod.mk.inj refused).1

theorem step_advance (σ : Switchboard) (i : Nat)
    : Step i (σ.takesOver i .advance) σ (σ.advance i) := by
  cases here : σ.top i with
  | none =>
      rw [takesOver, advance, here]
      exact .quiet (.refl σ)
  | some f =>
      rw [takesOver, advance, here]
      cases f with
      | running k t text seat => exact step_follow here
      | ended k t how seat =>
          have spent := (σ.exchange i).effect_settle_leave seat how
          let p := (((σ.exchange i).leave seat).settle how).2
          have table
              : (σ.pop i).put i p
                = { (σ.pop i).putState i p.state with reports := p.reports } := by
            cases how <;> rfl
          have left := ((Quiet.pop here rfl).even (.state spent)).before (.reports _ p.reports)
          rw [← table] at left
          exact .quiet (left.before (.answer _ k _))
      | registering k t d post =>
          cases post with
          | none => exact (Happens.enlist here).step.before (.answer _ k _)
          | some post => exact (Happens.post here).step
      | posting k t d post =>
          dsimp only
          split
          · next call s eq => exact (Happens.send here eq).step.before (.answer _ k _)
          · next s eq =>
              exact .quiet ((Quiet.state (effect_sendNative_none eq)).goes_on here rfl rfl rfl rfl)
      | refused k t =>
          have removed := (step_tableAct (σ.pop i) i (.remove t)).after (.pop here rfl)
          exact (removed.before (quiet_note _ i _)).before (.answer _ k _)

/-- A wrapper that is made owns what was taken for it. -/
theorem quiet_keepMade {made : Attempt BusError Message}
    (effect : State.Effect (Message.owesMade made.1) [] (σ.state i) made.2)
    : Quiet i [] [] [] σ (σ.keepMade i made fun _ => []) := by
  obtain ⟨e | m, s⟩ := made
  · exact .state effect
  · exact ((Quiet.state effect).even (quiet_add _ i m)).before (.handOut _ [])

theorem quiet_useWrapper {place : Nat} {w : Message} (here : σ.wrappers[place]? = some w)
    (i : Nat) (call : PendingCall) (a : Act)
    : Quiet i [] (a.takesOver w) (a.takesOver w) σ (σ.useWrapper i place w call a) := by
  obtain ⟨gain, loss, performed, counts⟩ := quiet_perform σ i { reply := w, call } a
  unfold useWrapper
  generalize Seat.perform { reply := w, call } (σ.state i) a = p at performed counts
  obtain ⟨answer, after, s⟩ := p
  dsimp only at performed counts ⊢
  have there : ((σ.putState i s).record (a.deeds w)).wrappers[place]? = some w := here
  have set := performed.trans (quiet_set there after.reply)
  rw [List.append_nil] at set
  refine Quiet.before (set.congr fun r => ?_) (.answer _ { inText := false } answer)
  have count := counts r
  rw [List.count_append, List.count_append, List.count_nil]
  omega

/-- Every step is made of quiet parts and one event at most. -/
theorem step_move (σ : Switchboard) (i : Nat) (move : Move)
    : Step i (σ.takesOver i move) σ (σ.move i move) := by
  cases move with
  | advance => exact step_advance σ i
  | nativeMessage body =>
      have made := (σ.state i).effect_newMessage
        (m := (Native.Message.ofMethod "").setBody body) rfl rfl
      exact .quiet ((Quiet.state made).even (.handOut _ [_]))
  | nativeCall method => exact .quiet (.state (State.effect_newCall _ _))
  | nativeConnection => exact .quiet (.state (State.effect_newConnection _))
  | failNextMessage => exact .quiet (.state (.of_same rfl rfl rfl rfl id))
  | failNextSend c => exact .quiet (.state (State.effect_setConnection rfl))
  | setMainLoop on => exact .quiet (.state (.of_same rfl rfl rfl rfl id))
  | flush => exact .quiet (.state (State.effect_flush _))
  | flushTask => exact .quiet (.state (State.effect_flush _))
  | methodCall destination path interface method =>
      have effect := Message.effect_methodCall destination path interface method (σ.state i)
      rw [Switchboard.move]
      unfold keepMade
      split
      · next m s eq => exact (Happens.make eq).step
      · next e s eq =>
          rw [eq] at effect
          exact .quiet (.state effect)
  | adopt raw own =>
      have adopted := (quiet_add σ i { raw, own }).trans (.takeOver _ (Message.owes { raw, own }))
      simp only [List.append_nil] at adopted
      exact .quiet adopted
  | newRef place =>
      rw [Switchboard.move]
      split
      · next w _ => exact .quiet (quiet_keepMade (w.effect_newRef _))
      · exact .quiet (.refl σ)
  | act place call a =>
      rw [Switchboard.move, takesOver]
      split
      · next w here =>
          rw [here]
          exact .quiet (quiet_useWrapper here i call a)
      · next none =>
          rw [none]
          exact .quiet (.refl σ)
  | disown place =>
      rw [Switchboard.move]
      split
      · next w here =>
          have cleared : Quiet i w.owes [] [] σ _ := quiet_set here { w with own := false }
          exact .quiet (cleared.even (.handOut _ w.owes))
      · exact .quiet (.refl σ)
  | drop place =>
      rw [Switchboard.move]
      split
      · next w here =>
          exact .quiet ((quiet_erase here).even (.state (w.effect_drop (σ.state i))))
      · exact .quiet (.refl σ)
  | table a => exact (step_tableAct σ i a).before (.answer _ { inText := false } _)
  | register d => exact (Happens.reserve σ _ d none).step
  | dispatch t m c => exact step_dispatch σ i _ t m c
  | callback t m c => exact step_dispatch σ i _ t m c
  | deliver c place m =>
      rw [Switchboard.move]
      split
      · exact step_dispatch σ i _ _ m _
      · exact .quiet (.refl σ)
  | send c place timeout d =>
      rw [Switchboard.move]
      split
      · next w here => exact step_send (quiet_erase here) _ c timeout d
      · exact .quiet (.refl σ)

/-- What the quiet parts of steps and the events keep, a step keeps. -/
theorem Step.keeps {P : Switchboard → Prop}
    (quiet : ∀ {i gain loss owned σ τ}, Quiet i gain loss owned σ τ → P σ → P τ)
    (happens : ∀ {i σ τ}, Happens i σ τ → P σ → P τ) (step : Step i owned σ τ) (holds : P σ)
    : P τ := by
  cases step with
  | quiet part => exact quiet part holds
  | event before event after => exact quiet after (happens event (quiet before holds))

/-- What the quiet parts of steps and the events keep, whole runs keep; by induction on the steps.
-/
theorem keeps_run {P : Switchboard → Prop}
    (quiet : ∀ {i gain loss owned σ τ}, Quiet i gain loss owned σ τ → P σ → P τ)
    (happens : ∀ {i σ τ}, Happens i σ τ → P σ → P τ) (holds : P σ) (es : List (Nat × Move))
    : P (σ.run es) := by
  induction es generalizing σ with
  | nil => exact holds
  | cons e rest ih => exact ih ((step_move σ e.1 e.2).keeps quiet happens holds)

end Switchboard

end Custody
