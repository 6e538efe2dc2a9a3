import Custody.Proofs.Hosting.Host

/-! The use of a wrapper without a native object: in whatever state a host is, the call answers what
stands for that, the thread is told by the error kind of the wrapper's own half, and nothing else
changes. A message that is to be sent over no connection ends with its wrapper.
-/

namespace Custody

-----------------------------------------------------------------------------------------
-- Reports
-----------------------------------------------------------------------------------------

/-- The number of the error kind for released wrappers of a half: the kind has taken it, and the entry
at this place of the table has the text of the kind.
-/
structure World.NumbersNullHandle (w : World) (realm : Realm) (n : ErrorNumber) : Prop where
  taken : (w.kinds.get realm.nullHandleKind).number = some n
  entry : ∃ p, w.errors[p]? = some (Utf8.encode realm.nullHandleText) ∧ n = Int32.ofNat (p + 1)

/-- From the first state to the second the use of a released wrapper was reported, and nothing else
happened: the thread learnt the number of the error kind, which may have been entered into the table
for it, and the log has more lines.
-/
structure State.Reports (realm : Realm) (s t : State) : Prop where
  number
    : ∃ n, t.thread = { s.thread with lastError := n } ∧ t.world.NumbersNullHandle realm n
  others
    : ∃ entries kinds lines,
        t.world
          = { s.world with
              errors := s.world.errors ++ entries
              kinds
              log := s.world.log ++ lines }
        ∧ ∀ k, k ≠ realm.nullHandleKind → kinds.get k = s.world.kinds.get k

namespace State

variable {s : State}

/-- The kind keeps its number, or its text is entered into the table and it takes the number of that
entry.
-/
theorem raiseNullHandle_eq (s : State) (realm : Realm)
    : ∃ n entries kinds lines,
        s.raiseNullHandle realm
          = { thread := { s.thread with lastError := n }
              world :=
                { s.world with
                  errors := s.world.errors ++ entries
                  kinds
                  log := s.world.log ++ lines } }
        ∧ (kinds.get realm.nullHandleKind).number = some n
        ∧ ∀ k, k ≠ realm.nullHandleKind → kinds.get k = s.world.kinds.get k := by
  unfold raiseNullHandle raiseKind kindNumber
  dsimp only [note]
  cases taken : (s.world.kinds.get realm.nullHandleKind).number with
  | some n =>
      refine ⟨n, [], s.world.kinds, [.usedAfterRelease realm], ?_, taken, fun _ _ => rfl⟩
      rw [List.append_nil]
      rfl
  | none =>
      let text := (s.world.kinds.get realm.nullHandleKind).text
      let n := (s.registerError text).1
      let kinds := s.world.kinds.put realm.nullHandleKind { text, number := some n }
      have numbered : (kinds.get realm.nullHandleKind).number = some n :=
        congrArg LazyKind.number (s.world.kinds.get_put_self realm.nullHandleKind _)
      refine ⟨n, [text.takeWhile (· != 0)], kinds, [.usedAfterRelease realm, .kindRegistered], ?_,
        numbered, fun _ => s.world.kinds.get_put_of_ne _⟩
      rw [s.world.log.append_cons (.usedAfterRelease realm) [.kindRegistered]]
      rfl

theorem reports_raiseNullHandle (known : s.world.NullKinds) (realm : Realm)
    : s.Reports realm (s.raiseNullHandle realm) := by
  have knownStill := (s.tame_raiseNullHandle realm).proceeds.kinds known
  obtain ⟨n, entries, kinds, lines, raised, taken, others⟩ := s.raiseNullHandle_eq realm
  rw [raised] at knownStill ⊢
  exact ⟨⟨n, rfl, taken, knownStill.number realm n taken⟩, entries, kinds, lines, rfl, others⟩

end State

/-- The halves of the library report under different numbers, as long as the table has no more entries
than there are numbers.
-/
theorem World.NumbersNullHandle.ne {w : World} {n m : ErrorNumber}
    (data : w.NumbersNullHandle .data n) (bus : w.NumbersNullHandle .bus m)
    (counted : w.errors.length < UInt32.size)
    : n ≠ m := by
  obtain ⟨-, p, entry, rfl⟩ := data
  obtain ⟨-, q, entry', rfl⟩ := bus
  intro same
  obtain ⟨inside, -⟩ := List.getElem?_eq_some_iff.1 entry
  obtain ⟨inside', -⟩ := List.getElem?_eq_some_iff.1 entry'
  have places : p = q := by
    have words : UInt32.ofNat (p + 1) = UInt32.ofNat (q + 1) := by
      rw [← Int32.toUInt32_ofNat', ← Int32.toUInt32_ofNat', same]
    have numbers := congrArg UInt32.toNat words
    rw [UInt32.toNat_ofNat', UInt32.toNat_ofNat'] at numbers
    rw [UInt32.size] at counted
    omega
  rw [places, entry'] at entry
  exact absurd entry (by decide)

-----------------------------------------------------------------------------------------
-- Sending
-----------------------------------------------------------------------------------------

/-- What is not sent for want of a connection or a message ends with its wrapper. -/
theorem Exchange.send_of_null (p : Exchange) {c : Connection} {m : Message} (timeout : Double)
    (d : Delegate) (null : c.raw = none ∨ m.raw = none)
    : p.send c m timeout d
      = (.error .nullHandle, { p with state := m.drop (p.state.raiseNullHandle .bus) }) := by
  obtain ⟨line⟩ := c
  obtain ⟨raw, own⟩ := m
  cases line with
  | none => rfl
  | some line =>
      cases null.resolve_left nofun
      rfl

-----------------------------------------------------------------------------------------
-- Whole runs
-----------------------------------------------------------------------------------------

namespace Host

/-- Whatever a host did before, the use of a wrapper without a native object fails, is reported to the
thread under the number of the wrapper's own half, and changes nothing else; so does a send over no
connection, or of no message, except that the wrapper of the message ends as one that is dropped.
-/
theorem null_uses_reported (settings : Settings) (threads : Nat → Thread) (es : List (Nat × Call))
    (i : Nat)
    : let σ := (start settings threads).run es
      (∀ u : Use,
        u.OnNull → ∃ t, u.run (σ.state i) = (u.failing, t) ∧ (σ.state i).Reports u.realm t)
      ∧ (∀ c m timeout d,
          c.raw = none ∨ m.raw = none
          → ∃ t,
              (σ.board.exchange i).send c m timeout d
                = (.error .nullHandle, { σ.board.exchange i with state := Handle.drop m t })
              ∧ (σ.state i).Reports .bus t)
      ∧ ∀ n m,
          σ.board.world.errors.length < UInt32.size
          → σ.board.world.NumbersNullHandle .data n
          → σ.board.world.NumbersNullHandle .bus m
          → n ≠ m := by
  have known : (((start settings threads).run es).state i).world.NullKinds :=
    nullKinds_run (State.nullKinds_blank settings) es
  refine ⟨fun u null => ?_, fun c m timeout d null => ?_, ?_⟩
  · exact ⟨_, u.run_of_onNull _ null, State.reports_raiseNullHandle known u.realm⟩
  · exact ⟨_, Exchange.send_of_null _ timeout d null, State.reports_raiseNullHandle known .bus⟩
  · exact fun n m counted data bus => data.ne bus counted

/-- A message is made, and a buffer and a pending call are used that are not there. -/
def misuses : List (Nat × Call) :=
  [(0, .bus (.methodCall "org.bus" "/" "org.bus.Test" "Ping")), (0, .use (.length Handle.null)),
    (1, .use (.method ⟨none⟩))]

def withReports : Host :=
  (start {} fun _ => {}).run misuses

/-- A thread appends a buffer at a position that is not there, and is told the number that the bus has for
that. The message is sent over no connection, and ends with its wrapper. The numbers of the halves differ.
-/
theorem withReports_null_uses_reported
    : let append : Use := .appendBuffer ⟨none⟩ Handle.null
      let m : Message := { raw := some ⟨0⟩, own := true }
      (∃ t,
        append.run (withReports.state 0) = (.error .nullHandle, t)
        ∧ (withReports.state 0).Reports .bus t
        ∧ t.thread.lastError = 2)
      ∧ (∃ t,
          (withReports.board.exchange 0).send ⟨none⟩ m Timeout.byDefault (.finish .ok)
            = (.error .nullHandle, { withReports.board.exchange 0 with state := Handle.drop m t })
          ∧ (withReports.state 0).Reports .bus t)
      ∧ ∀ n k,
          withReports.board.world.NumbersNullHandle .data n
          → withReports.board.world.NumbersNullHandle .bus k
          → n ≠ k := by
  obtain ⟨uses, sends, apart⟩ := null_uses_reported {} (fun _ => {}) misuses 0
  obtain ⟨t, failed, reported⟩ := uses (.appendBuffer ⟨none⟩ Handle.null) rfl
  refine ⟨⟨t, failed, reported, ?_⟩, sends _ _ _ _ (.inl rfl), fun n k => apart n k (by decide)⟩
  obtain rfl := congrArg Prod.snd failed
  rfl

/-- A host that has made a message. -/
def withMessage : Host :=
  (start {} fun _ => {}).run [(0, .bus (.methodCall "org.bus" "/" "org.bus.Test" "Ping"))]

/-- A message that goes out over no connection loses the reference of its wrapper. -/
theorem unsent_message_changed
    : let p := withMessage.board.exchange 0
      let sent := p.send ⟨none⟩ { raw := some ⟨0⟩, own := true } Timeout.byDefault (.finish .ok)
      sent.1 = .error .nullHandle ∧ sent.2.state.world.messages ≠ p.state.world.messages :=
  ⟨rfl, by decide⟩

end Host

end Custody
