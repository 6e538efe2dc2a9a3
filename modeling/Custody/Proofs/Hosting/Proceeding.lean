import Custody.Proofs.ByteLists.Refinement

/-! What every operation minds on the thread that it runs on: it leaves the main loop where it is, away
from it frees nothing but what it says, loses no object, and keeps the error kinds of released wrappers
and the signatures of messages in order.
-/

namespace Custody

-----------------------------------------------------------------------------------------
-- The error kinds of released wrappers
-----------------------------------------------------------------------------------------

/-- Both kinds for released wrappers are there with their texts, and one that took its number took that
of an entry with its text in the table.
-/
structure World.NullKinds (w : World) : Prop where
  many : 2 ≤ w.kinds.size
  text : ∀ realm : Realm,
    (w.kinds.get realm.nullHandleKind).text = Utf8.encode realm.nullHandleText
  number : ∀ (realm : Realm) n,
    (w.kinds.get realm.nullHandleKind).number = some n
    → ∃ p, w.errors[p]? = some (Utf8.encode realm.nullHandleText) ∧ n = Int32.ofNat (p + 1)

theorem Realm.index_nullHandleKind_lt (realm : Realm)
    : realm.nullHandleKind.index < 2 := by
  cases realm <;> decide

/-- No text of such a kind holds a NUL. -/
theorem Realm.takeWhile_nullHandleText (realm : Realm)
    : (Utf8.encode realm.nullHandleText).takeWhile (· != 0) = Utf8.encode realm.nullHandleText := by
  cases realm <;> decide

namespace State

variable {s t u : State}

theorem nullKinds_of_same (errors : t.world.errors = s.world.errors)
    (kinds : t.world.kinds = s.world.kinds) (known : s.world.NullKinds)
    : t.world.NullKinds := by
  obtain ⟨many, text, number⟩ := known
  rw [← kinds] at many text number
  rw [← errors] at number
  exact ⟨many, text, number⟩

theorem nullKinds_blank (settings : Settings)
    : (blank settings).world.NullKinds where
  many := Nat.le_refl _
  text realm := by cases realm <;> rfl
  number realm n taken := by cases realm <;> cases taken

/-- The table only grows, so that the entries keep their places. -/
theorem nullKinds_registerError (text : List UInt8) (known : s.world.NullKinds)
    : (s.registerError text).2.world.NullKinds where
  many := known.many
  text := known.text
  number realm n taken := by
    obtain ⟨p, entry, number⟩ := known.number realm n taken
    obtain ⟨inside, -⟩ := List.getElem?_eq_some_iff.1 entry
    exact ⟨p, (List.getElem?_append_left inside).trans entry, number⟩

theorem nullKinds_newKind (text : List UInt8) (known : s.world.NullKinds)
    : (s.newKind text).2.world.NullKinds := by
  have same (realm : Realm)
      : (s.newKind text).2.world.kinds.get realm.nullHandleKind
        = s.world.kinds.get realm.nullHandleKind :=
    s.world.kinds.get_alloc_of_ne _
      (Nat.lt_of_lt_of_le realm.index_nullHandleKind_lt known.many)
  refine ⟨?_, ?_, ?_⟩
  · exact Nat.le_trans known.many (Nat.le_of_lt (s.world.kinds.size_lt_alloc _))
  · intro realm
    rw [same]
    exact known.text realm
  · intro realm n taken
    rw [same] at taken
    exact known.number realm n taken

/-- A kind that takes its number takes that of the entry that is made for it. -/
theorem nullKinds_kindNumber (kind : Ref LazyKind) (known : s.world.NullKinds)
    : (s.kindNumber kind).2.world.NullKinds := by
  unfold kindNumber
  split
  · exact known
  · have grown := nullKinds_registerError (s.world.kinds.get kind).text known
    dsimp only
    refine ⟨?_, ?_, ?_⟩
    · exact Nat.le_trans known.many (s.world.kinds.size_le_put kind _)
    · intro realm
      refine (s.world.kinds.keeps_put (f := LazyKind.text) ?_ _).trans (known.text realm)
      rfl
    · intro realm n taken
      change LazyKind.number ((s.world.kinds.put kind _).get realm.nullHandleKind) = some n at taken
      by_cases here : realm.nullHandleKind = kind
      · subst here
        rw [Heap.get_put_self] at taken
        refine ⟨s.world.errors.length, ?_, ?_⟩
        · show (s.world.errors ++ [_])[s.world.errors.length]? = _
          rw [List.getElem?_concat_length, known.text, realm.takeWhile_nullHandleText]
        · rw [← Option.some.inj taken]
          show Int32.ofNat (s.world.errors ++ [_]).length = _
          rw [List.length_append, List.length_singleton]
      · rw [Heap.get_put_of_ne _ _ here] at taken
        exact grown.number realm n taken

theorem thread_kindNumber (s : State) (kind : Ref LazyKind)
    : (s.kindNumber kind).2.thread = s.thread := by
  unfold kindNumber
  split <;> rfl

-----------------------------------------------------------------------------------------
-- The signatures of messages
-----------------------------------------------------------------------------------------

end State

/-- No signature of a message holds a NUL. -/
def World.SignaturesFit (w : World) : Prop :=
  ∀ r, ZeroTerminated.fits (w.messages.get r).signature = true

namespace State

variable {s t u : State}

theorem signaturesFit_of_same (messages : t.world.messages = s.world.messages)
    (fit : s.world.SignaturesFit)
    : t.world.SignaturesFit :=
  fun r => messages ▸ fit r

/-- No message is there yet. -/
theorem signaturesFit_blank (settings : Settings)
    : (blank settings).world.SignaturesFit :=
  fun r => congrArg (fun m => ZeroTerminated.fits m.signature)
    ((blank settings).world.messages.get_of_size_le (Nat.zero_le r.index))

theorem signaturesFit_newMessage {m : Native.Message} (fits : ZeroTerminated.fits m.signature = true)
    (fit : s.world.SignaturesFit)
    : (s.newMessage m).2.world.SignaturesFit := by
  intro r
  refine (congrArg (fun m => ZeroTerminated.fits m.signature) (s.world.messages.get_alloc m r)).trans ?_
  split
  · exact fits
  · exact fit r

theorem signaturesFit_setMessage {r : Ref Native.Message} {m : Native.Message}
    (fits
      : ZeroTerminated.fits (s.message r).signature = true → ZeroTerminated.fits m.signature = true)
    (fit : s.world.SignaturesFit)
    : (s.setMessage r m).world.SignaturesFit := by
  intro q
  show ZeroTerminated.fits ((s.world.messages.put r m).get q).signature = true
  by_cases here : q = r
  · rw [here, Heap.get_put_self]
    exact fits (fit r)
  · rw [Heap.get_put_of_ne _ _ here]
    exact fit q

-----------------------------------------------------------------------------------------
-- Proceeding
-----------------------------------------------------------------------------------------

/-- From the first state to the second an operation ran that frees what is listed, each thing as often
as it is listed, and away from the main loop nothing else.
-/
structure Proceeds (frees : List NativeHandle) (s t : State) : Prop where
  onMainLoop : t.thread.onMainLoop = s.thread.onMainLoop
  away : s.thread.onMainLoop = false
    → ∀ h, t.world.freed h = s.world.freed h + frees.count h
  has : ∀ h, s.world.Has h → t.world.Has h
  kinds : s.world.NullKinds → t.world.NullKinds
  signatures : s.world.SignaturesFit → t.world.SignaturesFit

variable {frees more : List NativeHandle}

/-- What frees and queues nothing, and leaves the error kinds alone. -/
theorem Spares.proceeds (spares : s.Spares t)
    (onMainLoop : t.thread.onMainLoop = s.thread.onMainLoop)
    (errors : t.world.errors = s.world.errors) (kinds : t.world.kinds = s.world.kinds)
    (signatures : s.world.SignaturesFit → t.world.SignaturesFit)
    : Proceeds [] s t where
  onMainLoop := onMainLoop
  away _ h := spares.freed h
  has := spares.has
  kinds := nullKinds_of_same errors kinds
  signatures := signatures

theorem Proceeds.refl (s : State)
    : Proceeds [] s s :=
  (Spares.refl s).proceeds rfl rfl rfl id

theorem Proceeds.trans (first : Proceeds frees s t) (second : Proceeds more t u)
    : Proceeds (frees ++ more) s u where
  onMainLoop := second.onMainLoop.trans first.onMainLoop
  away notMain h := by
    have notMainStill : t.thread.onMainLoop = false := first.onMainLoop.trans notMain
    rw [second.away notMainStill, first.away notMain, List.count_append, Nat.add_assoc]
  has h := second.has h ∘ first.has h
  kinds := second.kinds ∘ first.kinds
  signatures := second.signatures ∘ first.signatures

/-- What comes after something that frees nothing. -/
theorem Proceeds.after (second : Proceeds frees t u) (first : Proceeds [] s t)
    : Proceeds frees s u :=
  first.trans second

/-- What comes before something that frees nothing. -/
theorem Proceeds.before (first : Proceeds frees s t) (second : Proceeds [] t u)
    : Proceeds frees s u := by
  have both := first.trans second
  rwa [List.append_nil] at both

/-- An attempt that goes on frees nothing if neither part does. -/
theorem Proceeds.andThen {ε α β : Type} {a : Attempt ε α} {next : α → State → Attempt ε β}
    (first : Proceeds [] s a.2) (second : ∀ x t, Proceeds [] t (next x t).2)
    : Proceeds [] s (a.andThen next).2 := by
  obtain ⟨x | e, t⟩ := a
  · exact first
  · exact (second _ t).after first

/-- What frees are counted by, and the error kinds, stay as they are. -/
theorem Proceeds.of_same (onMainLoop : t.thread.onMainLoop = s.thread.onMainLoop)
    (buffers : t.world.buffers = s.world.buffers) (cursors : t.world.cursors = s.world.cursors)
    (messages : t.world.messages = s.world.messages) (errors : t.world.errors = s.world.errors)
    (kinds : t.world.kinds = s.world.kinds)
    : Proceeds [] s t where
  onMainLoop := onMainLoop
  away _ h := by cases h <;> simp only [World.freed, buffers, cursors, messages] <;> rfl
  has h old := by cases h <;> simpa only [World.Has, buffers, cursors, messages] using old
  kinds := nullKinds_of_same errors kinds
  signatures := signaturesFit_of_same messages

theorem proceeds_note (s : State) (e : Event)
    : Proceeds [] s (s.note e) :=
  .of_same rfl rfl rfl rfl rfl rfl

theorem proceeds_registerError (s : State) (text : List UInt8)
    : Proceeds [] s (s.registerError text).2 where
  onMainLoop := rfl
  away _ h := by cases h <;> rfl
  has h old := by cases h <;> exact old
  kinds := nullKinds_registerError text
  signatures := id

theorem proceeds_newKind (s : State) (text : List UInt8)
    : Proceeds [] s (s.newKind text).2 where
  onMainLoop := rfl
  away _ h := by cases h <;> rfl
  has h old := by cases h <;> exact old
  kinds := nullKinds_newKind text
  signatures := id

theorem proceeds_kindNumber (s : State) (kind : Ref LazyKind)
    : Proceeds [] s (s.kindNumber kind).2 where
  onMainLoop := congrArg Thread.onMainLoop (s.thread_kindNumber kind)
  away _ := (Tame.kindNumber s kind).spares.freed
  has := (Tame.kindNumber s kind).spares.has
  kinds := nullKinds_kindNumber kind
  signatures := by
    unfold kindNumber
    split <;> exact id

/-- What is tame frees nothing and keeps its place and the error kinds; one case for each update. -/
theorem Tame.proceeds (tame : Tame s t)
    : Proceeds [] s t := by
  induction tame with
  | refl s => exact .refl s
  | trans _ _ first second => exact first.trans second
  | note | raise | written | setCall => exact .of_same rfl rfl rfl rfl rfl rfl
  | kindNumber s kind => exact proceeds_kindNumber s kind
  | setBuffer frees => exact (spares_setBuffer frees).proceeds rfl rfl rfl id
  | newBuffer s =>
      have spares := s.spares_newBuffer
      revert spares
      unfold State.newBuffer
      split <;> exact fun spares => spares.proceeds rfl rfl rfl id
  | setCursor frees => exact (spares_setCursor frees).proceeds rfl rfl rfl id
  | setMessage _ unrefs _ fits =>
      exact (spares_setMessage unrefs).proceeds rfl rfl rfl (signaturesFit_setMessage fits)
  | bodyCursors same | planned same =>
      rw [same]
      exact .of_same rfl rfl rfl rfl rfl rfl

-----------------------------------------------------------------------------------------
-- Frees
-----------------------------------------------------------------------------------------

theorem proceeds_free (s : State) (h : NativeHandle)
    : Proceeds [h] s (s.free h) where
  onMainLoop := by cases h <;> rfl
  away _ g := by rw [freed_free, count_singleton]
  has _ := has_free s h
  kinds := nullKinds_of_same (by cases h <;> rfl) (by cases h <;> rfl)
  signatures := by
    cases h with
    | buffer | cursor => exact id
    | message r => exact signaturesFit_setMessage id

/-- Away from the main loop a free that nobody asked for in words only waits. -/
theorem proceeds_schedulePointer (s : State) (h : Option NativeHandle)
    : Proceeds [] s (s.schedulePointer h) := by
  cases h with
  | none => exact .refl s
  | some h =>
      have freed := proceeds_free s h
      have waits : Proceeds [] s (s.enqueue h) := by
        unfold enqueue
        dsimp only
        split <;> exact .of_same rfl rfl rfl rfl rfl rfl
      show Proceeds [] s (s.schedule h)
      unfold schedule
      split
      · next inline =>
          refine ⟨freed.onMainLoop, fun notMain => ?_, freed.has, freed.kinds, freed.signatures⟩
          simp [freesInline, notMain] at inline
      · exact waits

theorem proceeds_freeAll (s : State) (batch : List NativeHandle)
    : Proceeds batch s (s.freeAll batch) := by
  unfold freeAll
  induction batch generalizing s with
  | nil => exact .refl s
  | cons h rest ih => exact (proceeds_free s h).trans (ih (s.free h))

/-- Away from the main loop a flush only reports. -/
theorem proceeds_flush (s : State)
    : Proceeds [] s s.flush.2 := by
  unfold flush
  split
  · exact proceeds_note s _
  · next main =>
      have taken : Proceeds [] s s.takeQueue.2 := .of_same rfl rfl rfl rfl rfl rfl
      have ran := (proceeds_freeAll s.takeQueue.2 s.takeQueue.1).after taken
      have onMain {t : State} (ran : Proceeds s.takeQueue.1 s t) : Proceeds [] s t :=
        ⟨ran.onMainLoop, fun notMain => absurd notMain (by simpa using main), ran.has, ran.kinds,
          ran.signatures⟩
      dsimp only
      split
      · exact onMain ran
      · exact onMain (ran.before (proceeds_note _ _))

theorem proceeds_dispose {α : Type} [Freeable α] (h : Handle α) (s : State)
    : Proceeds h.owed.toList s (h.dispose s).2 := by
  unfold Handle.dispose
  cases h.owed with
  | none => exact .refl s
  | some g => exact proceeds_free s g

end State

end Custody
