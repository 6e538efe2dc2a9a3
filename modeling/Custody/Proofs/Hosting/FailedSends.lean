import Custody.Proofs.Deferral.Conservation
import Custody.Proofs.Delivery.Accounts
import Custody.Proofs.Delivery.Uninterrupted
import Custody.Proofs.Hosting.NullHandles

/-! A send that fails leaves no trace. Without a connection or a message nothing was begun, and the
wrapper of the message ends as one that is dropped. If the native side refuses the message, the
delegate leaves the table before anybody can reach it, and its token is spent.
-/

namespace Custody

-----------------------------------------------------------------------------------------
-- The end of a wrapper
-----------------------------------------------------------------------------------------

/-- What a wrapper owed is given back once: at once where that may be, and otherwise last in the queue,
which the main loop empties.
-/
structure State.GivesBack (owed : Option NativeHandle) (s t : State) : Prop where
  freed : ∀ h, t.world.freed h = s.world.freed h + if s.freesInline then bill owed h else 0
  queue
    : t.world.queue = if s.freesInline then s.world.queue else s.world.queue ++ owed.toList
  flushed
    : ∀ thread : Thread,
        thread.onMainLoop = true
        → ∀ h,
          ({ t with thread } : State).flush.2.world.freed h = s.world.spent h + bill owed h

namespace Handle

variable {α : Type} [Freeable α]

theorem givesBack_drop (h : Handle α) (s : State)
    : State.GivesBack h.owed s (h.drop s) := by
  have queue : (h.drop s).world.queue = _ := s.queue_schedulePointer h.owed
  have spent := (h.pays_drop s).spent
  refine ⟨fun g => ?_, queue, fun thread main g => ?_⟩
  · have once : h.owed.toList.count g = bill h.owed g := by
      cases h.owed with
      | none => rfl
      | some g' => exact count_singleton g' g
    have counts := spent g
    simp only [World.spent, World.queued, queue] at counts
    split at counts
    · next inline =>
        rw [if_pos inline]
        omega
    · next later =>
        rw [if_neg later, Nat.add_zero]
        rw [List.count_append, once] at counts
        omega
  · have emptied := State.queue_flush { h.drop s with thread } main
    have flushed := (State.pays_flush { h.drop s with thread }).spent g
    rw [World.spent, World.queued, emptied, bill_none] at flushed
    exact flushed.trans (spent g)

end Handle

/-- What is reported of a released wrapper frees nothing, and the thread stays where it is. -/
theorem State.GivesBack.after {owed : Option NativeHandle} {s u : State} {realm : Realm}
    (gives : GivesBack owed (s.raiseNullHandle realm) u)
    : GivesBack owed s u := by
  have spares := (s.tame_raiseNullHandle realm).spares
  obtain ⟨n, entries, kinds, lines, raised, -⟩ := s.raiseNullHandle_eq realm
  have inline : (s.raiseNullHandle realm).freesInline = s.freesInline := by
    rw [raised]
    rfl
  have spent (h : NativeHandle)
      : (s.raiseNullHandle realm).world.spent h = s.world.spent h :=
    spares.pays.spent h
  refine ⟨fun h => ?_, ?_, fun thread main h => ?_⟩
  · rw [gives.freed, spares.freed, inline]
  · rw [gives.queue, spares.queue, inline]
  · rw [gives.flushed thread main, spent]

-----------------------------------------------------------------------------------------
-- What a failed send changes
-----------------------------------------------------------------------------------------

/-- A delegate that is taken out at once leaves the table as it was, but for the token. -/
theorem Registry.erase_register (r : Registry) (d : Delegate)
    : (r.register d).2.erase r.next
      = { next := r.next + 1, entries := (r.erase r.next).entries } := by
  simp [register, erase, List.filter_append]

namespace Exchange

/-- The ways in which a send can fail, with the error and what is left. The delegate is in neither. -/
inductive SendFails (p : Exchange) (c : Connection) (m : Message) (timeout : Double)
    : BusError → Exchange → Prop
  | null (none : c.raw = none ∨ m.raw = none)
    : SendFails p c m timeout .nullHandle
        { p with state := m.drop (p.state.raiseNullHandle .bus) }
  | refused {line : Ref Native.Connection} {r : Ref Native.Message} {s : State}
      (connected : c.raw = some line) (live : m.raw = some r)
      (refused
        : (if m.own then p.state else p.state.addRef r).sendNative line r p.delegates.next timeout
          = (none, s))
    : SendFails p c m timeout .send
        { p with
          state := s.note .sendFailed
          delegates :=
            { next := p.delegates.next + 1
              entries := (p.delegates.erase p.delegates.next).entries } }

variable {p q : Exchange} {c : Connection} {m : Message} {timeout : Double} {e : BusError}

/-- A send over a live connection depends on what the native side answers. -/
theorem send_of_live {line : Ref Native.Connection} {r : Ref Native.Message}
    (connected : c.raw = some line) (live : m.raw = some r) (timeout : Double) (d : Delegate)
    : p.send c m timeout d
      = match (if m.own then p.state else p.state.addRef r).sendNative line r p.delegates.next
          timeout with
        | (some call, s) =>
            (.ok ⟨some call⟩,
              { p with state := s.note .sent, delegates := (p.delegates.register d).2 })
        | (none, s) =>
            (.error .send,
              { p with
                state := s.note .sendFailed
                delegates := (p.delegates.register d).2.erase p.delegates.next }) := by
  obtain ⟨_⟩ := c
  obtain ⟨_, own⟩ := m
  obtain rfl := connected
  obtain rfl := live
  rfl

/-- A send fails in these ways only, and so it does with any other delegate. -/
theorem send_fails_iff (d : Delegate)
    : p.send c m timeout d = (.error e, q) ↔ p.SendFails c m timeout e q := by
  constructor
  · intro failed
    by_cases none : c.raw = none ∨ m.raw = none
    · rw [p.send_of_null timeout d none] at failed
      cases failed
      exact .null none
    · obtain ⟨connected, live⟩ := not_or.1 none
      obtain ⟨line, connected⟩ := Option.ne_none_iff_exists'.1 connected
      obtain ⟨r, live⟩ := Option.ne_none_iff_exists'.1 live
      rw [send_of_live connected live] at failed
      split at failed
      · cases failed
      · next s refused =>
          rw [Registry.erase_register] at failed
          cases failed
          exact .refused connected live refused
  · rintro (none | ⟨connected, live, refused⟩)
    · exact p.send_of_null timeout d none
    · rw [send_of_live connected live, refused, Registry.erase_register]

/-- No connection keeps a message that was not sent. -/
theorem SendFails.sent (fails : p.SendFails c m timeout e q) (r : Ref Native.Connection)
    : (q.state.connection r).sent = (p.state.connection r).sent := by
  cases fails with
  | null none =>
      have raised := (p.state.tame_raiseNullHandle .bus).effect
      exact ((m.effect_drop _).after raised).lines r
  | refused connected live refused =>
      have sent := (Switchboard.effect_sendNative_none refused).lines r
      split at sent
      · exact sent
      · exact sent.trans ((State.effect_addRef p.state _).lines r)

/-- Without a connection or a message the native side hears of nothing, no token is taken, and the
wrapper of the message ends as one that is dropped.
-/
theorem SendFails.null_effect (fails : p.SendFails c m timeout .nullHandle q)
    : q.delegates = p.delegates
      ∧ q.state.world.connections = p.state.world.connections
      ∧ q.state.world.calls = p.state.world.calls
      ∧ State.GivesBack m.owed p.state q.state := by
  cases fails with
  | null none =>
      have gives := m.givesBack_drop (p.state.raiseNullHandle .bus)
      obtain ⟨n, entries, kinds, lines, raised, -⟩ := p.state.raiseNullHandle_eq .bus
      have untouched (s : State)
          : (m.drop s).world.connections = s.world.connections
            ∧ (m.drop s).world.calls = s.world.calls := by
        unfold Handle.drop State.schedulePointer
        cases m.owed with
        | none => exact ⟨rfl, rfl⟩
        | some h =>
            show (s.schedule h).world.connections = _ ∧ (s.schedule h).world.calls = _
            unfold State.schedule State.enqueue
            dsimp only
            split
            · cases h <;> exact ⟨rfl, rfl⟩
            · split <;> exact ⟨rfl, rfl⟩
      obtain ⟨connections, calls⟩ := untouched (p.state.raiseNullHandle .bus)
      exact
        ⟨rfl, connections.trans (by rw [raised]), calls.trans (by rw [raised]), gives.after⟩

end Exchange

-----------------------------------------------------------------------------------------
-- The steps of a send that fails
-----------------------------------------------------------------------------------------

namespace Switchboard

variable {σ ρ : Switchboard} {i : Nat}

/-- Two switchboards that one thread takes to the same exchange, of which one has more on record. -/
theorem put_of_same {deeds : List Deed} (p : Exchange)
    (threads : ∀ j, j ≠ i → ρ.threads j = σ.threads j) (calls : ρ.calls = σ.calls)
    (wrappers : ρ.wrappers = σ.wrappers) (history : ρ.history = σ.history ++ deeds)
    : ρ.put i p = (σ.put i p).record deeds := by
  simp only [put, putState, record, calls, wrappers, history, Switchboard.mk.injEq, and_true]
  funext j
  split
  · rfl
  · next other => exact threads j other

/-- A send that the native side refuses takes three steps, after which its token is out of the table.
-/
theorem run_refused {c : Connection} {m : Message} {line : Ref Native.Connection}
    {r : Ref Native.Message} {s : State} {timeout : Double} (connected : c.raw = some line)
    (live : m.raw = some r)
    (refused
      : (if m.own then σ.state i else (σ.state i).addRef r).sendNative line r σ.delegates.next timeout
        = (none, s))
    (k : Asker) (d : Delegate)
    : let t := σ.delegates.next
      (σ.send i k c m timeout d).run (List.replicate 3 (i, .advance))
      = ((σ.put i { σ.exchange i with
            state := s.note .sendFailed
            delegates := (σ.delegates.register d).2.erase t }).record
          [.handedOut r, .token (.reserved t), .token (.enlisted t d), .token (.removed t)]).answer i k
          (.error .send) := by
  obtain ⟨_⟩ := c
  obtain ⟨_, own⟩ := m
  obtain rfl := connected
  obtain rfl := live
  dsimp only at refused ⊢
  let t := σ.delegates.next
  let lent := if own then σ.state i else (σ.state i).addRef r
  let post : Posting := ⟨line, r, timeout⟩
  let reserved : Switchboard :=
    { (σ.putState i lent).record [.handedOut r] with delegates := σ.delegates.reserve.2 }.record
      [.token (.reserved t)]
  let listed : Switchboard :=
    { reserved with delegates := (σ.delegates.register d).2 }.record [.token (.enlisted t d)]
  have begun
      : σ.send i k ⟨some line⟩ { raw := some r, own } timeout d
        = reserved.push i (.registering k t d (some post)) :=
    rfl
  have posted : (reserved.push i (.registering k t d (some post))).advance i
      = listed.push i (.posting k t d post) :=
    advance_registering_post reserved i k t d post
  have state : listed.state i = lent := σ.state_putState i lent
  have turnedDown
      : (listed.push i (.posting k t d post)).advance i
        = (listed.putState i s).push i (.refused k t) :=
    advance_posting_refused listed i k t d (by rw [state]; exact refused)
  have there : (σ.delegates.register d).2.contains t = true := by
    simp [Registry.register, Registry.contains, t]
  have removed : TableAct.deeds (listed.putState i s).delegates (.remove t) = [.token (.removed t)] :=
    if_pos there
  let out : Exchange :=
    { σ.exchange i with
      state := s.note .sendFailed
      delegates := (σ.delegates.register d).2.erase t }
  have left
      : (listed.putState i s).put i out
        = (σ.put i out).record
            [.handedOut r, .token (.reserved t), .token (.enlisted t d)] :=
    put_of_same out (fun j other => by simp [listed, reserved, putState, record, other]) rfl rfl
      (by simp [listed, reserved, putState, record])
  have ended := advance_refused (listed.putState i s) i k t
  rw [state_putState, removed] at ended
  show (((σ.send i k ⟨some line⟩ { raw := some r, own } timeout d).advance i).advance i).advance i
    = _
  rw [begun, posted, turnedDown, ended]
  refine congrArg (fun τ : Switchboard => τ.answer i k (.error .send)) ?_
  exact (congrArg (fun τ : Switchboard => τ.record [.token (.removed t)]) left).trans
    (record_append _ _ _).symm

/-- The steps of a send that fails lead to what it leaves at once. On record of tokens is that one was
taken, given out and removed, if the native side was asked at all.
-/
theorem run_failed {c : Connection} {m : Message} {timeout : Double} {e : BusError} {q : Exchange}
    (fails : (σ.exchange i).SendFails c m timeout e q) (k : Asker) (d : Delegate)
    : ∃ n deeds,
        (σ.send i k c m timeout d).run (List.replicate n (i, .advance))
          = ((σ.put i q).record deeds).answer i k (.error e)
        ∧ deeds.filterMap Deed.token?
          = if e = .send then
              [.reserved σ.delegates.next, .enlisted σ.delegates.next d,
                .removed σ.delegates.next]
            else [] := by
  cases fails with
  | null none =>
      refine ⟨0, [], ?_, rfl⟩
      rw [record_nil]
      obtain ⟨_ | line⟩ := c
      · rfl
      · obtain ⟨raw, own⟩ := m
        obtain rfl : raw = .none := none.resolve_left nofun
        rfl
  | @refused line r s connected live refused =>
      refine ⟨3, [.handedOut r, .token (.reserved σ.delegates.next),
        .token (.enlisted σ.delegates.next d), .token (.removed σ.delegates.next)], ?_, rfl⟩
      rw [run_refused connected live refused, Registry.erase_register]
      rfl

-----------------------------------------------------------------------------------------
-- Tokens that were spent
-----------------------------------------------------------------------------------------

/-- The next token is new, as long as tokens do not run out. -/
theorem Orderly.next_not_mem_reserved (orderly : σ.Orderly) (few : σ.Few)
    : σ.delegates.next ∉ σ.reserved := by
  intro member
  rw [orderly.reserved, orderly.next] at member
  obtain ⟨n, inside, same⟩ := List.mem_map.1 member
  have number := few.toNat_ofNat inside
  have bound : σ.reserved.length < UInt64.size - 1 := few
  rw [same, UInt64.toNat_ofNat_of_lt' (by omega)] at number
  rw [List.mem_range'_1] at inside
  omega

/-- Nobody waits under the next token, so a registration that is undone leaves all that waits. -/
theorem Orderly.erase_next (orderly : σ.Orderly) (few : σ.Few)
    : σ.delegates.erase σ.delegates.next = σ.delegates := by
  refine Registry.erase_of_not_mem fun waits => orderly.next_not_mem_reserved few ?_
  exact orderly.held.mem_iff.2 (List.mem_append_left _ (orderly.waiting_issued waits))

/-- A send keeps what holds of tokens at any time, whatever wrapper it is given. -/
theorem Orderly.send (orderly : σ.Orderly) (i : Nat) (k : Asker) (c : Connection) (m : Message)
    (timeout : Double) (d : Delegate)
    : (σ.send i k c m timeout d).Orderly := by
  let held : Switchboard := { σ with wrappers := m :: σ.wrappers }
  have first : held.wrappers[0]? = some m := rfl
  have came : Quiet i m.owes [] [] held σ := quiet_erase first
  exact (step_send came k c timeout d).keeps_turn (fun turn orderly => orderly.turn turn)
    (orderly.same (.of_same rfl rfl rfl))

/-- A token that was taken and removed is not taken again, and its delegate does not run. -/
theorem Orderly.never_again {t : Token} {before more : List TokenDeed} (orderly : σ.Orderly)
    (few : σ.Few) (deeds : σ.tokenDeeds = before ++ more) (taken : .reserved t ∈ before)
    (gone : .removed t ∈ before)
    : t ∉ more.filterMap TokenDeed.reserved?
      ∧ t ∉ (more.filterMap TokenDeed.invoked?).map (·.1) := by
  constructor
  · intro again
    have once := orderly.nodup_reserved few
    rw [Switchboard.reserved, deeds, List.filterMap_append] at once
    exact (List.nodup_append.1 once).2.2 t (List.mem_filterMap.2 ⟨_, taken, rfl⟩) t again rfl
  · intro again
    have bound := orderly.count_consumed_le few t
    have first : 0 < (before.filterMap TokenDeed.removed?).count t :=
      List.count_pos_iff.2 (List.mem_filterMap.2 ⟨_, gone, rfl⟩)
    have second := List.count_pos_iff.2 again
    have found := TokenDeed.count_invoked_le more t
    rw [Switchboard.removed, Switchboard.found, deeds, List.filterMap_append, List.filterMap_append,
      List.count_append, List.count_append] at bound
    omega

end Switchboard

-----------------------------------------------------------------------------------------
-- Whole runs
-----------------------------------------------------------------------------------------

namespace Host

variable {σ : Host}

/-- What every turn of the switchboard keeps, the calls of a host keep; by induction on the calls. -/
theorem keeps_turns {P : Switchboard → Prop}
    (turn : ∀ {σ τ : Switchboard}, σ.Turn τ → P σ → P τ) (holds : P σ.board)
    (es : List (Nat × Call))
    : P (σ.run es).board := by
  induction es generalizing σ with
  | nil => exact holds
  | cons e rest ih =>
      refine ih ?_
      obtain ⟨i, call⟩ := e
      have aside {τ : Host} (same : σ.board.SameTokens τ.board) : P τ.board :=
        turn (.same same) holds
      cases call with
      | bus move => exact (Switchboard.step_move σ.board i move).keeps_turn turn holds
      | data | use | serve => exact aside (.of_same rfl rfl rfl)

theorem orderly_run (settings : Settings) (threads : Nat → Thread) (es : List (Nat × Call))
    : ((start settings threads).run es).board.Orderly :=
  keeps_turns (fun turn orderly => orderly.turn turn)
    ((Switchboard.orderly_start settings threads).same (.of_same rfl rfl rfl)) es

/-- A send that fails leaves no trace, whatever a host did before and whatever it does then. What it
leaves is the same for any delegate. All that waited waits still, connections keep the messages that
they kept, and later only those run that waited, or that are registered later. Without a connection or
a message no token is taken and the native side is not asked, and what the wrapper of the message owed
is given back once. If the native side refuses the message, the token is not taken again, and nobody
runs under it. Tokens tell delegates apart as long as they do not run out.
-/
theorem failed_send_leaves_no_trace (settings : Settings) (threads : Nat → Thread)
    (es : List (Nat × Call)) (i : Nat) {c : Connection} {m : Message} {timeout : Double}
    {d : Delegate} {e : BusError} {q : Exchange}
    (few : ((start settings threads).run es).board.reserved.length < UInt64.size - 1)
    (failed
      : (((start settings threads).run es).board.exchange i).send c m timeout d = (.error e, q))
    : let σ := (start settings threads).run es
      let p := σ.board.exchange i
      let t := p.delegates.next
      (e = .nullHandle ∧ (c.raw = none ∨ m.raw = none)
        ∨ e = .send ∧ c.raw.isSome = true ∧ m.raw.isSome = true)
      ∧ (∀ d', p.send c m timeout d' = (.error e, q))
      ∧ q.delegates.entries = p.delegates.entries
      ∧ (∀ r, (q.state.connection r).sent = (p.state.connection r).sent)
      ∧ (e = .nullHandle
        → q.delegates = p.delegates
          ∧ q.state.world.connections = p.state.world.connections
          ∧ q.state.world.calls = p.state.world.calls
          ∧ State.GivesBack m.owed p.state q.state)
      ∧ ∀ k,
        ∃ n deeds,
          let τ := ((σ.board.put i q).record deeds).answer i k (.error e)
          (σ.board.send i k c m timeout d).run (List.replicate n (i, .advance)) = τ
          ∧ τ.tokenDeeds
            = σ.board.tokenDeeds
              ++ (if e = .send then [.reserved t, .enlisted t d, .removed t] else [])
          ∧ ∀ later,
            let ρ := ({ σ with board := τ } : Host).run later
            ρ.board.reserved.length < UInt64.size - 1
            → ∃ more,
              ρ.board.tokenDeeds = τ.tokenDeeds ++ more
              ∧ (∀ x ∈ more.filterMap TokenDeed.invoked?,
                  x ∈ p.delegates.entries ∨ x ∈ more.filterMap TokenDeed.enlisted?)
              ∧ (e = .send
                → t ∉ more.filterMap TokenDeed.reserved?
                  ∧ t ∉ (more.filterMap TokenDeed.invoked?).map (·.1)) := by
  have orderly := orderly_run settings threads es
  dsimp only
  generalize (start settings threads).run es = σ at few failed orderly
  have fails := (Exchange.send_fails_iff d).1 failed
  have entries : q.delegates.entries = (σ.board.exchange i).delegates.entries := by
    cases fails with
    | null none => rfl
    | refused connected live refused => exact congrArg (·.entries) (orderly.erase_next few)
  refine ⟨?_, fun d' => (Exchange.send_fails_iff d').2 fails, entries, fails.sent, ?_, fun k => ?_⟩
  · cases fails with
    | null none => exact .inl ⟨rfl, none⟩
    | refused connected live refused => exact .inr ⟨rfl, by rw [connected]; rfl, by rw [live]; rfl⟩
  · rintro rfl
    exact fails.null_effect
  · obtain ⟨n, deeds, reached, told⟩ := Switchboard.run_failed fails k d
    let τ := ((σ.board.put i q).record deeds).answer i k (.error e)
    have recorded : τ.tokenDeeds = σ.board.tokenDeeds ++ deeds.filterMap Deed.token? :=
      (Switchboard.told_answer _ i k _ fun _ _ => rfl).trans
        (Switchboard.tokenDeeds_record (σ.board.put i q) deeds)
    have table : τ.delegates = q.delegates := Switchboard.delegates_answer _ i k _
    have orderlyThen : τ.Orderly := by
      rw [show τ = _ from reached.symm]
      exact (orderly.send i k c m timeout d).run _
    refine ⟨n, deeds, reached, recorded.trans (by rw [told]; rfl), fun later bound => ?_⟩
    let sent : Host := { σ with board := τ }
    have begun : ∃ more, Switchboard.Accounts τ more sent.board :=
      ⟨[], (Switchboard.SameTokens.refl τ).accounts⟩
    obtain ⟨more, accounts⟩ := keeps_turns Switchboard.Turn.accounts_since begun later
    refine ⟨more, accounts.deeds, fun x ran => ?_, ?_⟩
    · have known := List.mem_append.1 (accounts.invoked ran)
      rwa [table, entries] at known
    · rintro rfl
      have orderlyLater : (sent.run later).board.Orderly :=
        keeps_turns (fun turn orderly => orderly.turn turn) orderlyThen later
      rw [if_pos rfl] at told
      refine orderlyLater.never_again bound accounts.deeds ?_ ?_ <;> simp [recorded, told]

/-- A delegate waits, and the native side is about to refuse a message. -/
def refusing : List (Nat × Call) :=
  [(0, .bus .nativeConnection), (0, .bus (.methodCall "d" "p" "i" "Hello")),
    (0, .bus (.register (.finish .ok))), (0, .bus .advance), (0, .bus (.failNextSend ⟨0⟩))]

theorem refusing_send_leaves_no_trace
    : let p := ((start {} fun _ => {}).run refusing).board.exchange 0
      let out := p.send ⟨some ⟨0⟩⟩ { raw := some ⟨0⟩, own := true } default (.finish .panic)
      ((start {} fun _ => {}).run refusing).board.reserved.length < UInt64.size - 1
      ∧ out = (.error .send, out.2)
      ∧ out.2.delegates.next = 3
      ∧ out.2.delegates.entries = p.delegates.entries
      ∧ p.delegates.entries = [(1, .finish .ok)] := by
  have few : ((start {} fun _ => {}).run refusing).board.reserved.length < UInt64.size - 1 := by
    decide +kernel
  let p := ((start {} fun _ => {}).run refusing).board.exchange 0
  let out := p.send ⟨some ⟨0⟩⟩ { raw := some ⟨0⟩, own := true } default (.finish .panic)
  have failed : out = (.error .send, out.2) := rfl
  obtain ⟨-, -, kept, -⟩ := failed_send_leaves_no_trace {} (fun _ => {}) refusing 0 few failed
  exact ⟨few, failed, rfl, kept, rfl⟩

end Host

end Custody
