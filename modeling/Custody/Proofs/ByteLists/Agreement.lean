import Custody.Proofs.ByteLists.Refinement

/-! What the agreement with byte lists says to callers: what wrappers and views show, when an edit is
refused, and that nothing else changes.
-/

namespace Custody

-----------------------------------------------------------------------------------------
-- Refusals
-----------------------------------------------------------------------------------------

namespace Edit

variable {s : State} {b : Buffer}

/-- The source of the edit is a wrapper without a buffer. -/
def NoSource : Edit Buffer → Prop
  | appendBuffer source => source.raw = none
  | _ => False

/-- The edit takes more bytes than its input has. -/
def PastInput : Edit Buffer → Prop
  | appendLen bytes n | insertLen bytes n _ => bytes.length < n
  | _ => False

/-- Among so many bytes there is no such place or stretch. -/
def OutOfRange (length : Nat) : Edit Buffer → Prop
  | insert _ pos | insertLen _ _ pos | insertByte _ pos | insertSlice _ pos => length < pos
  | remove start stop => stop < start ∨ length < stop
  | _ => False

/-- The reasons to refuse an edit. -/
def Refused (e : Edit Buffer) (b : Buffer) (s : State) : Prop :=
  b.raw = none
  ∨ e.NoSource
  ∨ e.PastInput
  ∨ ∃ r,
      b.raw = some r
      ∧ (s.thread.failAppend = true
        ∨ (s.buffer r).failNext = true
        ∨ e.OutOfRange (s.buffer r).bytes.length)

/-- An edit without a change has no source, or takes more than its input has. -/
theorem change_eq_none (e : Edit Buffer) {contents : Buffer → Option (List UInt8)}
    (null : ∀ b, contents b = none ↔ b.raw = none) (length : Nat)
    : (e.map contents).change length = none ↔ e.NoSource ∨ e.PastInput := by
  cases e with
  | appendBuffer source => simp [map, change, NoSource, PastInput, null]
  | appendLen | insertLen => simp [map, change, NoSource, PastInput]
  | append | appendByte | appendSlice | insert | insertByte | insertSlice | remove =>
      simp [map, change, NoSource, PastInput]

/-- The change of an edit fits where the edit is in range. -/
theorem fits_iff (e : Edit Buffer) {contents : Buffer → Option (List UInt8)} {length : Nat}
    {c : Change} (made : (e.map contents).change length = some c)
    : ¬ c.Fits length ↔ e.OutOfRange length := by
  cases e with
  | append | appendByte | appendSlice =>
      cases made
      simp [Change.Fits, OutOfRange]
  | insert | insertByte | insertSlice =>
      cases made
      simp [Change.Fits, OutOfRange]
  | remove start stop =>
      cases made
      simp only [Change.Fits, OutOfRange]
      omega
  | appendBuffer source =>
      obtain ⟨_, -, rfl⟩ := Option.map_eq_some_iff.1 made
      simp [Change.Fits, OutOfRange]
  | appendLen | insertLen =>
      simp only [map, change] at made
      split at made
      · cases made
        simp [Change.Fits, OutOfRange]
      · contradiction

end Edit

namespace ByteLists

variable (p : ByteLists) {r q : Ref Native.Buffer} {name : Option (Ref Native.Buffer)}
  {e : Edit (Option (Ref Native.Buffer))}

theorem change_refuses (r : Ref Native.Buffer) (c : Change)
    : (p.change r c).1 = false ↔ p.Refuses r c := by
  unfold change
  split <;> simp [*]

theorem bytes_takeFailures (r q : Ref Native.Buffer)
    : ((p.takeFailures r).byteList q).bytes = (p.byteList q).bytes := by
  show ByteList.bytes (if q = r then _ else _) = _
  split
  · next here => exact here ▸ rfl
  · rfl

/-- A refused edit leaves the bytes of every byte list. -/
theorem bytes_of_refused (refused : (p.edit name e).1 = false) (q : Ref Native.Buffer)
    : ((p.edit name e).2.byteList q).bytes = (p.byteList q).bytes := by
  cases name with
  | none => rfl
  | some r =>
      unfold edit at refused ⊢
      dsimp only at refused ⊢
      split
      · rfl
      · next c made =>
          rw [made] at refused
          dsimp only at refused
          unfold change
          rw [if_pos ((p.change_refuses r c).1 refused)]
          exact p.bytes_takeFailures r q

theorem byteList_put_of_ne (new : ByteList) (other : q ≠ r)
    : (p.put r new).byteList q = p.byteList q :=
  if_neg other

/-- An edit leaves every other byte list alone. -/
theorem byteList_edit_of_ne (other : name ≠ some q)
    : (p.edit name e).2.byteList q = p.byteList q := by
  cases name with
  | none => rfl
  | some r =>
      have ne : q ≠ r := fun same => other (congrArg some same.symm)
      have calm : (p.takeFailures r).byteList q = p.byteList q := p.byteList_put_of_ne _ ne
      unfold edit
      dsimp only
      split
      · rfl
      · unfold change
        split
        · exact calm
        · exact ((p.takeFailures r).byteList_put_of_ne _ ne).trans calm

theorem byteList_clear_of_ne (other : name ≠ some q)
    : (p.clear name).byteList q = p.byteList q := by
  cases name with
  | none => rfl
  | some r => exact p.byteList_put_of_ne _ fun same => other (congrArg some same.symm)

theorem bytes_failNextChange (name : Option (Ref Native.Buffer)) (q : Ref Native.Buffer)
    : ((p.failNextChange name).byteList q).bytes = (p.byteList q).bytes := by
  cases name with
  | none => rfl
  | some r =>
      show ByteList.bytes (if q = r then _ else _) = _
      split
      · next here => exact here ▸ rfl
      · rfl

/-- Making and filling a byte list leaves those alone that were there. -/
theorem byteList_build (old : q.index < p.made)
    : (p.build e).2.byteList q = p.byteList q := by
  have same := p.byteList_make
  unfold build
  split
  · next refused =>
      rw [refused] at same
      exact congrFun same q
  · next r t taken =>
      rw [taken] at same
      have new : some r ≠ some q := by
        unfold make at taken
        split at taken
        · cases taken
        · cases taken
          rintro ⟨⟩
          exact Nat.lt_irrefl _ old
      have edited := t.byteList_edit_of_ne (e := e) new
      split
      · next edit =>
          rw [edit] at edited
          exact edited.trans (congrFun same q)
      · next edit =>
          rw [edit] at edited
          exact edited.trans (congrFun same q)

end ByteLists

/-- An edit answers false where it is refused, and nowhere else. -/
theorem Edit.refused_iff {s : State} {b : Buffer} (e : Edit Buffer)
    (made : ∀ r, b.raw = some r → r.index < s.byteLists.made)
    : (e.run b s).1 = false ↔ e.Refused b s := by
  have edited : (e.run b s).1 = (s.byteLists.edit b.raw (e.map Handle.raw)).1 :=
    congrArg Prod.fst (e.shown_run made)
  have null (b : Buffer) : (s.byteLists.bytes? ∘ Handle.raw) b = none ↔ b.raw = none :=
    Option.map_eq_none_iff
  rw [edited, Refused]
  cases raw : b.raw with
  | none => simp [ByteLists.edit]
  | some r =>
      have reasons := e.change_eq_none null (s.buffer r).bytes.length
      unfold ByteLists.edit
      rw [Edit.map_map]
      dsimp only
      split
      · next nothing =>
          rcases reasons.1 nothing with source | past
          · simp [source]
          · simp [past]
      · next c found =>
          have fits : ¬ c.Fits (s.buffer r).bytes.length ↔ e.OutOfRange (s.buffer r).bytes.length :=
            e.fits_iff found
          obtain ⟨source, past⟩ : ¬ e.NoSource ∧ ¬ e.PastInput := by
            rw [← not_or, ← reasons]
            exact Option.ne_none_iff_exists'.2 ⟨c, found⟩
          have same : s.byteLists.Refuses r c
              ↔ s.thread.failAppend = true
                ∨ (s.buffer r).failNext = true
                ∨ e.OutOfRange (s.buffer r).bytes.length := by
            rw [← fits]
            rfl
          rw [ByteLists.change_refuses, same]
          simp [source, past]

-----------------------------------------------------------------------------------------
-- What a task leaves alone
-----------------------------------------------------------------------------------------

/-- The wrapper through which a task changes contents. -/
def Task.target : Task → Option Nat
  | edit place _ | reset place | freeContents place => some place
  | _ => none

/-- A task changes the bytes of no byte list but that of its wrapper, and of new ones. -/
theorem ByteListWrappers.bytes_perform (τ : ByteListWrappers) (i : Nat) {t : Task} {r : Ref Native.Buffer}
    (old : r.index < τ.made) (other : ∀ place, t.target = some place → τ.wrapper place ≠ some r)
    : ((τ.perform i t).byteList r).bytes = (τ.byteList r).bytes := by
  have kept {made : Except BufferError (Ref Native.Buffer) × ByteLists}
      (same : made.2.byteList r = τ.byteList r)
      : (τ.keep i made).byteList r = τ.byteList r := by
    obtain ⟨result, p⟩ := made
    cases result <;> exact same
  cases t with
  | nativeBuffer => exact congrArg ByteList.bytes (congrFun (τ.byteLists i).byteList_make r)
  | new => exact congrArg ByteList.bytes (kept (congrFun (τ.byteLists i).byteList_make r))
  | ofBytes | ofBytesLen | copy | copyView =>
      exact congrArg ByteList.bytes (kept ((τ.byteLists i).byteList_build old))
  | edit place e => exact congrArg ByteList.bytes ((τ.byteLists i).byteList_edit_of_ne (other place rfl))
  | reset place | freeContents place =>
      exact congrArg ByteList.bytes ((τ.byteLists i).byteList_clear_of_ne (other place rfl))
  | failNextWriteTo raw => exact (τ.byteLists i).bytes_failNextChange _ r
  | adopt | lookAt | view | setOwn | release | dispose | drop | ask | look | flush | flushTask
  | setMainLoop | failNextAlloc | failNextWrite =>
      rfl

-----------------------------------------------------------------------------------------
-- The main result
-----------------------------------------------------------------------------------------

/-- Before the first task there are no byte lists. -/
def ByteListWrappers.start (threads : Nat → Thread) : ByteListWrappers :=
  { failures := fun i => ⟨(threads i).failAlloc, (threads i).failAppend⟩ }

namespace BufferWrappers

/-- After any tasks of any threads, with any failures, the wrappers and views of native buffers gave
the answers that wrappers and views of byte lists give, every buffer has the bytes of its byte list, and
every wrapper and view shows them. An edit answers false where it is refused and nowhere else, and then
changes no contents; and no task changes the contents of a buffer that was there, unless it edits or clears
that very buffer.
-/
theorem buffers_refine_byte_lists (settings : Settings) (threads : Nat → Thread)
    (es : List (Nat × Task))
    : let σ := (start settings threads).run es
      let τ := (ByteListWrappers.start threads).run es
      σ.replies = τ.replies
      ∧ (∀ r, (σ.world.buffers.get r).bytes = (τ.byteList r).bytes)
      ∧ (∀ i place (q : Question),
          (q.ask (σ.wrapper place) (σ.state i)).1 = q.answer (τ.bytes? (τ.wrapper place))
          ∧ q.look (σ.wrapper place).view (σ.state i) = q.answer (τ.bytes? (τ.wrapper place)))
      ∧ (∀ i view (q : Question),
          q.look (σ.view view) (σ.state i) = q.answer (τ.bytes? (τ.view view)))
      ∧ (∀ i place (e : Edit Nat),
          let edited := (e.map σ.wrapper).run (σ.wrapper place) (σ.state i)
          (edited.1 = false ↔ (e.map σ.wrapper).Refused (σ.wrapper place) (σ.state i))
          ∧ (edited.1 = false
            → ∀ r, (edited.2.buffer r).bytes = ((σ.state i).buffer r).bytes))
      ∧ (∀ i (t : Task) r,
          r.index < σ.world.buffers.size
          → (∀ place, t.target = some place → (σ.wrapper place).raw ≠ some r)
          → ((σ.perform i t).world.buffers.get r).bytes = (σ.world.buffers.get r).bytes) := by
  intro σ τ
  have grounded : σ.Grounded := (grounded_start settings threads).run es
  have agree : σ.reference = τ := reference_run (grounded_start settings threads) es
  refine ⟨?_, ?_, ?_, ?_, ?_, ?_⟩
  · rw [← agree]
    rfl
  · intro r
    rw [← agree]
    rfl
  · intro i place q
    rw [← agree, wrapper_reference]
    refine ⟨congrArg Prod.fst (q.shown_ask (σ.wrapper place) (σ.state i)), ?_⟩
    exact q.look_eq (σ.wrapper place).view (σ.state i)
  · intro i view q
    rw [← agree, view_reference]
    exact q.look_eq (σ.view view) (σ.state i)
  · intro i place e edited
    have made := grounded.wrappers place
    have shown := (e.map σ.wrapper).shown_run (s := σ.state i) made
    refine ⟨(e.map σ.wrapper).refused_iff made, fun refused r => ?_⟩
    have stays := (σ.state i).byteLists.bytes_of_refused
      ((congrArg Prod.fst shown).symm.trans refused) r
    rw [← shown] at stays
    exact stays
  · intro i t r old other
    have frame := σ.reference.bytes_perform i old fun place target => by
      rw [wrapper_reference]
      exact other place target
    rw [← reference_perform grounded i t] at frame
    exact frame

/-- Two wrappers of one buffer: its contents are appended to themselves, an insertion meets a failure,
the next one succeeds, and a second buffer is made of the first.
-/
def pasting : List (Nat × Task) :=
  [(0, .ofBytes [1, 2, 3]), (1, .adopt (some ⟨0⟩) false), (1, .edit 1 (.appendBuffer 0)),
    (0, .failNextWrite), (0, .edit 0 (.insertByte 9 2)), (0, .edit 0 (.insertLen [7, 8] 1 2)),
    (1, .copy 0), (1, .edit 2 (.remove 0 4))]

theorem pasting_refines_byte_lists
    : let σ := (start {} fun _ => {}).run pasting
      σ.replies = [.outcome none, .done, .flag true, .done, .flag false, .flag true, .outcome none,
        .flag true]
      ∧ σ.replies = ((ByteListWrappers.start fun _ => {}).run pasting).replies
      ∧ (Question.toBytes.ask (σ.wrapper 1) (σ.state 0)).1 = .bytes (some [1, 2, 7, 3, 1, 2, 3])
      ∧ (∀ r,
          (((Edit.remove 0 9).run (σ.wrapper 1) (σ.state 0)).2.buffer r).bytes
            = ((σ.state 0).buffer r).bytes)
      ∧ ((σ.perform 0 (.reset 1)).world.buffers.get ⟨1⟩).bytes = [1, 2, 3] := by
  obtain ⟨replies, -, shown, -, edits, frame⟩ := buffers_refine_byte_lists {} (fun _ => {}) pasting
  refine ⟨by decide, replies, (shown 0 1 .toBytes).1, ?_, ?_⟩
  · exact (edits 0 1 (.remove 0 9)).2 rfl
  · refine (frame 0 (.reset 1) ⟨1⟩ (by decide) ?_).trans rfl
    rintro _ ⟨⟩
    decide

end BufferWrappers

end Custody
