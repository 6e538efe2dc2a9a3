import Custody.Proofs.Errors.Channel

/-! Error numbers are places in the table, counted from one. A number is taken when a text is registered: by
the one who gives the text, or by a kind that has no number yet. So a kind keeps the number that it is told
first, no two kinds share one, and a number leads to one text for good.
-/

namespace Custody

/-- No kind has a number beyond the last entry, and no two kinds have the same. -/
structure World.Numbered (w : World) : Prop where
  within : ∀ kind n, w.numberOf kind = some n → n.toInt ≤ w.errors.length
  apart : ∀ kind other n, w.numberOf kind = some n → w.numberOf other = some n → kind = other

/-- As long as numbers do not run out, the next one is the place of the next entry. -/
theorem World.toInt_nextNumber {w : World} (few : w.errors.length + 1 < 0x80000000)
    : w.nextNumber.toInt = w.errors.length + 1 :=
  Int32.toInt_ofNat_of_lt few

namespace State

variable {s : State}

/-- A positive number leads to the entry at its place, and no other number leads anywhere. -/
theorem errorText_eq_some {n : ErrorNumber} {text : String}
    : s.errorText n = some text
      ↔ ∃ (place : Nat) (bytes : List UInt8),
          n.toInt = place + 1
          ∧ s.world.errors[place]? = some bytes
          ∧ text = Utf8.decode bytes := by
  have positive : 0 < n ↔ 0 < n.toInt := Int32.lt_iff_toInt_lt
  unfold errorText
  constructor
  · intro found
    split at found
    · next above =>
        obtain ⟨bytes, entered, rfl⟩ := Option.map_eq_some_iff.1 found
        refine ⟨n.toInt.toNat - 1, bytes, ?_, entered, rfl⟩
        have above' := positive.1 above
        omega
    · cases found
  · rintro ⟨place, bytes, counted, entered, rfl⟩
    have above : 0 < n := positive.2 (by omega)
    have back : n.toInt.toNat - 1 = place := by omega
    rw [if_pos above, back, entered]
    rfl

/-- The text of a number is the same whatever is entered later. -/
theorem errorText_later {t : State} {n : ErrorNumber} {text : String}
    (later : World.Later s.world t.world) (found : s.errorText n = some text)
    : t.errorText n = some text := by
  obtain ⟨place, bytes, counted, entered, decoded⟩ := errorText_eq_some.1 found
  refine errorText_eq_some.2 ⟨place, bytes, counted, ?_, decoded⟩
  obtain ⟨more, grown⟩ := later.errors
  have inside : place < s.world.errors.length := (List.getElem?_eq_some_iff.1 entered).1
  rw [← grown, List.getElem?_append_left inside, entered]

theorem lastError_eq (s : State)
    : s.lastError = (some s.thread.lastError).filter (· ≠ 0) := by
  unfold lastError
  split
  · next zero => rw [zero, Option.filter_some_neg (by decide)]
  · next raised => rw [Option.filter_some_pos (by simpa using raised)]

end State

namespace ErrorCall

variable {s t : State} {c : ErrorCall} {kind : Ref LazyKind}

/-- A kind that is asked a second time registers nothing. -/
theorem Effect.errors_of_isSome (effect : c.Effect s t) (asks : c.asks = some kind)
    (taken : (s.world.numberOf kind).isSome)
    : t.world.errors = s.world.errors := by
  rw [effect.errors, enters_of_asks asks, World.entries, if_pos taken, List.append_nil]

/-- A kind that is asked for the first time registers its text, and is told the next number. -/
theorem Effect.of_isNone (effect : c.Effect s t) (asks : c.asks = some kind)
    (free : s.world.numberOf kind = none)
    : t.world.errors = s.world.errors ++ [World.entry (s.world.kindText kind)]
      ∧ c.told s = some s.world.nextNumber := by
  obtain ⟨number, told⟩ := effect.asked kind asks
  rw [free, Option.getD_none] at number
  refine ⟨?_, told.trans number⟩
  rw [effect.errors, enters_of_asks asks, World.entries, free]
  rfl

/-- A kind that has a number tells it. -/
theorem Effect.told_of_some (effect : c.Effect s t) (asks : c.asks = some kind) {n : ErrorNumber}
    (taken : s.world.numberOf kind = some n)
    : c.told s = some n := by
  obtain ⟨number, told⟩ := effect.asked kind asks
  rw [told, number, taken, Option.getD_some]

/-- A number is one that the kind had, or it is taken in the call. -/
theorem Effect.origin (effect : c.Effect s t) {n : ErrorNumber}
    (taken : t.world.numberOf kind = some n)
    : s.world.numberOf kind = some n
      ∨ c.asks = some kind
        ∧ n = s.world.nextNumber
        ∧ t.world.errors.length = s.world.errors.length + 1 := by
  by_cases asks : c.asks = some kind
  · cases free : s.world.numberOf kind with
    | none =>
        obtain ⟨errors, told⟩ := effect.of_isNone asks free
        have same : some n = some s.world.nextNumber :=
          (taken.symm.trans (effect.asked kind asks).2.symm).trans told
        refine .inr ⟨asks, Option.some.inj same, ?_⟩
        rw [errors, List.length_append, List.length_singleton]
    | some m =>
        have number := (effect.asked kind asks).1
        rw [taken, free] at number
        exact .inl number.symm
  · exact .inl ((effect.numbers kind asks).symm.trans taken)

/-- The next number lies beyond all that were taken. -/
theorem Effect.numbered (effect : c.Effect s t) (numbered : s.world.Numbered)
    (few : t.world.errors.length < 0x80000000)
    : t.world.Numbered where
  within kind n taken := by
    obtain old | ⟨-, rfl, longer⟩ := effect.origin taken
    · have grown := effect.later.errors.length_le
      have within := numbered.within kind n old
      omega
    · rw [World.toInt_nextNumber (by omega)]
      omega
  apart kind other n taken taken' := by
    have beyond {k : Ref LazyKind} (old : s.world.numberOf k = some s.world.nextNumber)
        (longer : t.world.errors.length = s.world.errors.length + 1)
        : False := by
      have within := numbered.within k _ old
      rw [World.toInt_nextNumber (by omega)] at within
      omega
    obtain old | ⟨asks, rfl, longer⟩ := effect.origin taken
    · obtain old' | ⟨-, rfl, longer⟩ := effect.origin taken'
      · exact numbered.apart kind other n old old'
      · exact (beyond old longer).elim
    · obtain old' | ⟨asks', -, -⟩ := effect.origin taken'
      · exact (beyond old' longer).elim
      · exact Option.some.inj (asks.symm.trans asks')

end ErrorCall

namespace ErrorChannel

variable {σ : ErrorChannel}

theorem numbered_run (numbered : σ.world.Numbered) {calls : List (Nat × ErrorCall)}
    (few : (σ.run calls).world.errors.length < 0x80000000)
    : (σ.run calls).world.Numbered := by
  induction calls generalizing σ with
  | nil => exact numbered
  | cons e rest ih =>
      have fewer := ((σ.step e).later_run rest).errors.length_le
      exact ih ((σ.effect_step e).numbered numbered (Nat.lt_of_le_of_lt fewer few)) few

theorem numberOf_start (settings : Settings) (threads : Nat → Thread) (kind : Ref LazyKind)
    : (start settings threads).world.numberOf kind = none := by
  obtain ⟨_ | _ | place⟩ := kind <;> rfl

theorem kindText_start (settings : Settings) (threads : Nat → Thread) (realm : Realm)
    : (start settings threads).world.kindText realm.nullHandleKind
      = Utf8.encode realm.nullHandleText := by
  cases realm <;> rfl

theorem numbered_start (settings : Settings) (threads : Nat → Thread)
    : (start settings threads).world.Numbered where
  within kind n taken := by
    rw [numberOf_start] at taken
    cases taken
  apart kind other n taken := by
    rw [numberOf_start] at taken
    cases taken

theorem kinds_start (settings : Settings) (threads : Nat → Thread) (realm : Realm)
    : realm.nullHandleKind.index < (start settings threads).world.kinds.size := by
  cases realm with
  | data => exact Nat.zero_lt_two
  | bus => exact Nat.one_lt_two

/-- From the start, the kinds with numbers are those that were asked for them. -/
theorem isSome_numberOf_iff (settings : Settings) (threads : Nat → Thread)
    (calls : List (Nat × ErrorCall)) (kind : Ref LazyKind)
    : (((start settings threads).run calls).world.numberOf kind).isSome ↔ kind ∈ asked calls := by
  rw [isSome_numberOf_run, numberOf_start]
  exact or_iff_right nofun

variable {i j : Nat} {c d : ErrorCall} {kind other : Ref LazyKind}

/-- What a call is told of a kind is the number of the kind from then on. -/
theorem numberOf_of_asks (σ : ErrorChannel) (asks : c.asks = some kind)
    (after : List (Nat × ErrorCall))
    : ∃ n,
        c.told (σ.state i) = some n ∧ (((σ.step (i, c)).run after).world.numberOf kind) = some n := by
  obtain ⟨number, told⟩ := (σ.effect_step (i, c)).asked kind asks
  exact ⟨_, told.trans number, ((σ.step (i, c)).later_run after).numbers kind _ number⟩

/-- Whoever asks for the kind again is told the same, and nothing is registered. -/
theorem told_again (σ : ErrorChannel) (asks : c.asks = some kind) (again : d.asks = some kind)
    (after : List (Nat × ErrorCall))
    : let τ := (σ.step (i, c)).run after
      d.told (τ.state j) = c.told (σ.state i) ∧ (τ.step (j, d)).world.errors = τ.world.errors := by
  intro τ
  obtain ⟨n, told, taken⟩ := σ.numberOf_of_asks asks after
  have effect : d.Effect (τ.state j) ((τ.step (j, d)).state j) := τ.effect_step (j, d)
  exact ⟨(effect.told_of_some again taken).trans told.symm,
    effect.errors_of_isSome again (Option.isSome_of_eq_some taken)⟩

/-- Whoever asks for another kind is told another number. -/
theorem told_apart (σ : ErrorChannel) (asks : c.asks = some kind) (others : d.asks = some other)
    (differ : other ≠ kind) (after : List (Nat × ErrorCall))
    : let τ := (σ.step (i, c)).run after
      (τ.step (j, d)).world.Numbered → d.told (τ.state j) ≠ c.told (σ.state i) := by
  intro τ numbered same
  obtain ⟨n, told, taken⟩ := σ.numberOf_of_asks asks after
  have effect : d.Effect (τ.state j) ((τ.step (j, d)).state j) := τ.effect_step (j, d)
  have taken' : (τ.step (j, d)).world.numberOf other = some n :=
    (effect.asked other others).2.symm.trans (same.trans told)
  exact differ (numbered.apart other kind n taken' (effect.later.numbers kind n taken))

/-- What a call raises is the last error of its thread until that thread raises again. -/
theorem lastError_of_raises (σ : ErrorChannel) (raises : c.raises = true)
    {after : List (Nat × ErrorCall)} (quiet : ∀ e ∈ after, e.1 = i → e.2.raises = false)
    : (((σ.step (i, c)).run after).state i).lastError = (c.told (σ.state i)).filter (· ≠ 0) := by
  have last : some ((σ.step (i, c)).threads i).lastError = c.told (σ.state i) := by
    have last := (σ.effect_step (i, c)).last
    rwa [if_pos raises] at last
  rw [State.lastError_eq, ← last, ← lastError_run (σ.step (i, c)) quiet]
  rfl

/-- From the start of the library, any threads make any calls, then one thread makes one call, and then
they go on with any others. Numbers are given out in the order of the entries, one for each text that is
registered and one for each kind when it is first asked for its number; they are what every later call is
told of the kind, and lead to the same text from then on. A thread's last error is the number that it
raised last, unless that is zero.
-/
theorem errors_numbered_once (settings : Settings) (threads : Nat → Thread)
    (before : List (Nat × ErrorCall)) (i : Nat) (c : ErrorCall) (after : List (Nat × ErrorCall))
    : let ρ := (start settings threads).run before
      let σ := ρ.step (i, c)
      let τ := σ.run after
      -- a text that is given joins the table, and so does that of a kind when it is first asked for
      -- its number; nothing else does
      (∀ text, c = .register text →
        σ.world.errors = ρ.world.errors ++ [World.entry text]
        ∧ c.told (ρ.state i) = some ρ.world.nextNumber)
      ∧ (∀ kind, c.asks = some kind → kind ∉ asked before →
          σ.world.errors = ρ.world.errors ++ [World.entry (ρ.world.kindText kind)]
          ∧ c.told (ρ.state i) = some ρ.world.nextNumber)
      ∧ ((∀ text, c ≠ .register text) → (∀ kind, c.asks = some kind → kind ∈ asked before) →
          σ.world.errors = ρ.world.errors)
      -- the texts of kinds are fixed from the first
      ∧ (∀ text, c = .newKind text →
          ((ρ.state i).newKind text).1 ∉ asked before
          ∧ τ.world.kindText ((ρ.state i).newKind text).1 = text)
      ∧ (∀ realm : Realm,
          τ.world.kindText realm.nullHandleKind = Utf8.encode realm.nullHandleText)
      -- numbers are places, counted from one
      ∧ (ρ.world.errors.length + 1 < 0x80000000 →
          ρ.world.nextNumber.toInt = ρ.world.errors.length + 1)
      -- a kind is told one number, no other kind is told that, and it registers nothing again
      ∧ (∀ kind j d, c.asks = some kind → d.asks = some kind →
          d.told (τ.state j) = c.told (ρ.state i) ∧ (τ.step (j, d)).world.errors = τ.world.errors)
      ∧ (∀ kind other j d, c.asks = some kind → d.asks = some other → other ≠ kind →
          (τ.step (j, d)).world.errors.length < 0x80000000 →
            d.told (τ.state j) ≠ c.told (ρ.state i))
      -- a number leads to the text at its place, and that for good
      ∧ (∀ j n text,
          (σ.state j).errorText n = some text
            ↔ ∃ (place : Nat) (bytes : List UInt8),
                n.toInt = place + 1
                ∧ σ.world.errors[place]? = some bytes
                ∧ text = Utf8.decode bytes)
      ∧ (∀ j k n text,
          (σ.state j).errorText n = some text → (τ.state k).errorText n = some text)
      -- the last error of a thread
      ∧ (c.raises = true → (∀ e ∈ after, e.1 = i → e.2.raises = false) →
          (τ.state i).lastError = (c.told (ρ.state i)).filter (· ≠ 0))
      ∧ (∀ j, (∀ e ∈ before, e.1 = j → e.2.raises = false) → (ρ.state j).lastError = none) := by
  intro ρ σ τ
  have effect : c.Effect (ρ.state i) (σ.state i) := ρ.effect_step (i, c)
  have later : World.Later σ.world τ.world := σ.later_run after
  have known (kind : Ref LazyKind) : (ρ.world.numberOf kind).isSome ↔ kind ∈ asked before :=
    isSome_numberOf_iff settings threads before kind
  have unknown {kind : Ref LazyKind} (first : kind ∉ asked before)
      : ρ.world.numberOf kind = none :=
    Option.not_isSome_iff_eq_none.1 fun taken => first ((known kind).1 taken)
  refine ⟨?_, ?_, ?_, ?_, ?_, World.toInt_nextNumber, ?_, ?_, fun _ _ _ => State.errorText_eq_some,
    fun _ _ _ _ => State.errorText_later later, ?_, ?_⟩
  · rintro text rfl
    exact ⟨effect.errors, congrArg some (State.fst_registerError (ρ.state i) text)⟩
  · intro kind asks first
    exact effect.of_isNone asks (unknown first)
  · intro ungiven second
    cases asks : c.asks with
    | none =>
        have nothing := ErrorCall.enters_of_asks_none (w := ρ.world) asks ungiven
        exact effect.errors.trans (nothing ▸ List.append_nil _)
    | some kind => exact effect.errors_of_isSome asks ((known kind).2 (second kind asks))
  · rintro text rfl
    constructor
    · intro first
      exact absurd (World.index_lt_size ((known _).2 first)) (Nat.lt_irrefl _)
    · refine (later.texts _ (ρ.world.kinds.size_lt_alloc _)).trans ?_
      exact congrArg LazyKind.text (ρ.world.kinds.get_alloc_self _)
  · intro realm
    have first : World.Later (start settings threads).world ρ.world := later_run _ before
    have kept := (first.trans (effect.later.trans later)).texts _ (kinds_start _ _ realm)
    exact kept.trans (kindText_start settings threads realm)
  · intro kind j d asks again
    exact ρ.told_again asks again after
  · intro kind other j d asks others differ few
    have whole
        : τ.step (j, d) = (start settings threads).run (before ++ (i, c) :: after ++ [(j, d)]) := by
      simp only [run, List.foldl_append, List.foldl_cons, List.foldl_nil, τ, σ, ρ]
    refine ρ.told_apart asks others differ after ?_
    show (τ.step (j, d)).world.Numbered
    rw [whole] at few ⊢
    exact numbered_run (numbered_start settings threads) few
  · intro raises quiet
    exact ρ.lastError_of_raises raises quiet
  · intro j quiet
    have none : (ρ.threads j).lastError = 0 := lastError_run (start settings threads) quiet
    exact if_pos none

/-- Two threads make a kind each, of the same text; the first raises its own, which the other thread does
not notice, and the second asks for the number of the other.
-/
theorem twins_numbered_apart
    : let ρ := (start {} fun _ => {}).run [(0, .newKind [116]), (1, .newKind [116])]
      let σ := ρ.step (0, .raiseKind ⟨2⟩)
      (ErrorCall.number ⟨3⟩).told (σ.state 1) ≠ (ErrorCall.raiseKind ⟨2⟩).told (ρ.state 0)
      ∧ (σ.state 0).lastError = some 1 := by
  intro ρ σ
  obtain ⟨-, -, -, -, -, -, -, apart, -, -, last, -⟩ :=
    errors_numbered_once {} (fun _ => {}) [(0, .newKind [116]), (1, .newKind [116])] 0
      (.raiseKind ⟨2⟩) []
  exact ⟨apart ⟨2⟩ ⟨3⟩ 1 (.number ⟨3⟩) rfl rfl (by decide) (by decide),
    last rfl (List.forall_mem_nil _)⟩

end ErrorChannel

end Custody
