import Custody.Proofs.ByteLists.Reference
import Custody.Proofs.Ownership.Spending

/-! Operations on buffers do to the native buffers what those on byte lists do to the lists that stand for
them, with the same answers. Reports and frees touch no byte list.
-/

namespace Custody

namespace State

variable {s t : State} {r : Ref Native.Buffer}

/-- The byte list that stands for a native buffer. -/
def byteList (s : State) (r : Ref Native.Buffer) : ByteList :=
  { bytes := (s.buffer r).bytes, failNext := (s.buffer r).failNext }

/-- The byte lists that stand for the native buffers, as the thread finds them. -/
def byteLists (s : State) : ByteLists where
  made := s.world.buffers.size
  byteList := s.byteList
  failMake := s.thread.failAlloc
  failChange := s.thread.failAppend

/-- What an operation does to the byte lists. -/
def shown {α : Type} (ran : α × State) : α × ByteLists :=
  (ran.1, ran.2.byteLists)

-----------------------------------------------------------------------------------------
-- Changes
-----------------------------------------------------------------------------------------

theorem byteLists_setBuffer (made : r.index < s.byteLists.made) (b : Native.Buffer)
    : (s.setBuffer r b).byteLists = s.byteLists.put r { bytes := b.bytes, failNext := b.failNext } := by
  have read (q : Ref Native.Buffer)
      : (s.setBuffer r b).byteList q = (s.byteLists.put r ⟨b.bytes, b.failNext⟩).byteList q := by
    unfold byteList setBuffer buffer ByteLists.put
    dsimp only
    split
    · next here =>
        subst here
        rw [Heap.get_put_self]
    · next other =>
        rw [Heap.get_put_of_ne _ _ other]
        rfl
  exact ByteLists.ext (s.world.buffers.size_put b made) (funext read) rfl rfl

theorem byteLists_setContents (made : r.index < s.byteLists.made) (bytes : List UInt8)
    : (s.setContents r bytes).byteLists = s.byteLists.write r bytes :=
  byteLists_setBuffer made _

theorem byteLists_takeWriteFailure (made : r.index < s.byteLists.made)
    : (s.takeWriteFailure r).byteLists = s.byteLists.takeFailures r :=
  byteLists_setBuffer (s := { s with thread := { s.thread with failAppend := false } }) made _

theorem byteLists_rewrite (made : r.index < s.byteLists.made) (bytes : List UInt8)
    : ((s.takeWriteFailure r).setContents r bytes).byteLists
      = (s.byteLists.takeFailures r).write r bytes := by
  have calm := byteLists_takeWriteFailure made
  have still : r.index < (s.takeWriteFailure r).byteLists.made := by
    rw [calm]
    exact made
  rw [byteLists_setContents still, calm]

/-- Putting bytes in is a change of an empty stretch. -/
theorem shown_writeAt (made : r.index < s.byteLists.made) (bytes : List UInt8) (pos : Nat)
    : shown (s.writeAt r bytes pos) = s.byteLists.change r ⟨pos, pos, bytes⟩ := by
  have refuses
      : (s.writeFails r || decide ((s.buffer r).bytes.length < pos)) = true
        ↔ s.byteLists.Refuses r ⟨pos, pos, bytes⟩ := by
    simp [writeFails, ByteLists.Refuses, Change.Fits, byteLists, byteList, or_assoc]
  unfold writeAt ByteLists.change
  simp only [refuses]
  split
  · exact congrArg (Prod.mk false) (byteLists_takeWriteFailure made)
  · exact congrArg (Prod.mk true) (byteLists_rewrite made _)

/-- Taking bytes out is a change without new bytes. -/
theorem shown_cut (made : r.index < s.byteLists.made) (start stop : Nat)
    : shown (s.cut r start stop) = s.byteLists.change r ⟨start, stop, []⟩ := by
  have refuses
      : (s.writeFails r || decide (stop < start) || decide ((s.buffer r).bytes.length < stop)) = true
        ↔ s.byteLists.Refuses r ⟨start, stop, []⟩ := by
    simp [writeFails, ByteLists.Refuses, Change.Fits, byteLists, byteList, or_assoc,
      Classical.not_and_iff_not_or_not, -not_and]
  unfold cut ByteLists.change
  simp only [refuses]
  split
  · exact congrArg (Prod.mk false) (byteLists_takeWriteFailure made)
  · refine congrArg (Prod.mk true) ((byteLists_rewrite made _).trans ?_)
    unfold Change.apply
    rw [List.append_nil]
    rfl

-----------------------------------------------------------------------------------------
-- Making
-----------------------------------------------------------------------------------------

theorem shown_newBuffer (s : State)
    : shown s.newBuffer = s.byteLists.make := by
  by_cases fails : s.thread.failAlloc = true
  · rw [newBuffer, ByteLists.make, if_pos fails, if_pos (show s.byteLists.failMake = true from fails)]
    rfl
  · rw [newBuffer, ByteLists.make, if_neg fails, if_neg (show ¬ s.byteLists.failMake = true from fails)]
    refine congrArg (Prod.mk _) (ByteLists.ext (s.world.buffers.size_alloc {}) (funext fun r => ?_) rfl rfl)
    exact s.world.buffers.keeps_alloc (f := fun b => ByteList.mk b.bytes b.failNext) rfl r

-----------------------------------------------------------------------------------------
-- Reports and frees
-----------------------------------------------------------------------------------------

theorem byteLists_kindNumber (s : State) (kind : Ref LazyKind)
    : (s.kindNumber kind).2.byteLists = s.byteLists := by
  unfold kindNumber
  split <;> rfl

theorem byteLists_raiseNullHandle (s : State) (realm : Realm)
    : (s.raiseNullHandle realm).byteLists = s.byteLists :=
  byteLists_kindNumber (s.note (.usedAfterRelease realm)) realm.nullHandleKind

theorem byteLists_free {h : NativeHandle} (has : s.world.Has h)
    : (s.free h).byteLists = s.byteLists := by
  cases h with
  | buffer q =>
      refine ByteLists.ext (s.world.buffers.size_put _ has) (funext fun r => ?_) rfl rfl
      exact s.world.buffers.keeps_put (a := { s.buffer q with frees := (s.buffer q).frees + 1 })
        (f := fun b => ByteList.mk b.bytes b.failNext) rfl r
  | cursor | message => rfl

theorem byteLists_schedulePointer {h : Option NativeHandle} (has : ∀ g, h = some g → s.world.Has g)
    : (s.schedulePointer h).byteLists = s.byteLists := by
  cases h with
  | none => rfl
  | some h =>
      show (s.schedule h).byteLists = _
      unfold schedule enqueue
      dsimp only
      split
      · exact byteLists_free (has h rfl)
      · split <;> rfl

theorem byteLists_freeAll {batch : List NativeHandle} (has : ∀ h ∈ batch, s.world.Has h)
    : (s.freeAll batch).byteLists = s.byteLists := by
  unfold freeAll
  induction batch generalizing s with
  | nil => rfl
  | cons h rest ih =>
      have first : s.world.Has h := has h (List.mem_cons_self ..)
      refine (ih fun g later => ?_).trans (byteLists_free first)
      exact has_free s h (has g (List.mem_cons_of_mem h later))

theorem byteLists_flush (has : ∀ h ∈ s.world.queue, s.world.Has h)
    : s.flush.2.byteLists = s.byteLists := by
  unfold flush
  split
  · rfl
  · have ran : (s.takeQueue.2.freeAll s.takeQueue.1).byteLists = s.byteLists := by
      refine byteLists_freeAll fun h waits => ?_
      have old := has h waits
      cases h <;> exact old
    dsimp only
    split <;> exact ran

end State

-----------------------------------------------------------------------------------------
-- Wrappers
-----------------------------------------------------------------------------------------

namespace Edit

variable {s : State} {b : Buffer}

/-- Without a buffer nothing is edited. -/
theorem shown_use (e : Edit Buffer) {act : Ref Native.Buffer → State → Bool × State}
    (acts : ∀ r,
      b.raw = some r
      → State.shown (act r s) = s.byteLists.edit (some r) (e.map Handle.raw))
    : State.shown (b.use .data false act s) = s.byteLists.edit b.raw (e.map Handle.raw) := by
  unfold Handle.use
  cases raw : b.raw with
  | none => exact congrArg (Prod.mk false) (s.byteLists_raiseNullHandle .data)
  | some r => exact acts r raw

/-- An edit through a wrapper is the edit of the byte list that the wrapper refers to. -/
theorem shown_run (e : Edit Buffer) (made : ∀ r, b.raw = some r → r.index < s.byteLists.made)
    : State.shown (e.run b s) = s.byteLists.edit b.raw (e.map Handle.raw) := by
  cases e with
  | append bytes =>
      apply shown_use (.append bytes)
      intro r raw
      rw [if_neg (Nat.lt_irrefl _), List.take_length]
      exact State.shown_writeAt (made r raw) bytes _
  | appendLen bytes n =>
      apply shown_use (.appendLen bytes n)
      intro r raw
      simp only [ByteLists.edit, map, change]
      by_cases short : bytes.length < n
      · rw [if_pos short, if_neg (Nat.not_le.2 short)]
        rfl
      · rw [if_neg short, if_pos (Nat.not_lt.1 short)]
        exact State.shown_writeAt (made r raw) (bytes.take n) _
  | appendByte byte =>
      apply shown_use (.appendByte byte)
      intro r raw
      exact State.shown_writeAt (made r raw) [byte] _
  | appendSlice slice =>
      apply shown_use (.appendSlice slice)
      intro r raw
      exact State.shown_writeAt (made r raw) slice.bytes _
  | appendBuffer source =>
      apply shown_use (.appendBuffer source)
      intro r raw
      unfold Handle.use
      simp only [ByteLists.edit, map, change, ByteLists.bytes?]
      cases source.raw with
      | none => exact congrArg (Prod.mk false) (s.byteLists_raiseNullHandle .data)
      | some q => exact State.shown_writeAt (made r raw) (s.buffer q).bytes _
  | insert bytes pos =>
      apply shown_use (.insert bytes pos)
      intro r raw
      rw [if_neg (Nat.lt_irrefl _), List.take_length]
      exact State.shown_writeAt (made r raw) bytes pos
  | insertLen bytes n pos =>
      apply shown_use (.insertLen bytes n pos)
      intro r raw
      simp only [ByteLists.edit, map, change]
      by_cases short : bytes.length < n
      · rw [if_pos short, if_neg (Nat.not_le.2 short)]
        rfl
      · rw [if_neg short, if_pos (Nat.not_lt.1 short)]
        exact State.shown_writeAt (made r raw) (bytes.take n) pos
  | insertByte byte pos =>
      apply shown_use (.insertByte byte pos)
      intro r raw
      exact State.shown_writeAt (made r raw) [byte] pos
  | insertSlice slice pos =>
      apply shown_use (.insertSlice slice pos)
      intro r raw
      exact State.shown_writeAt (made r raw) slice.bytes pos
  | remove start stop =>
      apply shown_use (.remove start stop)
      intro r raw
      exact State.shown_cut (made r raw) start stop

end Edit

namespace Buffer

variable {s : State} {b : Buffer}

theorem byteLists_reset (made : ∀ r, b.raw = some r → r.index < s.byteLists.made)
    : (b.reset s).byteLists = s.byteLists.clear b.raw := by
  unfold reset Handle.use
  cases raw : b.raw with
  | none => exact s.byteLists_raiseNullHandle .data
  | some r => exact State.byteLists_setContents (made r raw) []

/-- The wrapper that a making hands out. -/
def owner (r : Ref Native.Buffer) : Buffer :=
  { raw := some r, own := true }

theorem shown_new (s : State)
    : State.shown (new s)
      = (s.byteLists.new.1.map owner, s.byteLists.new.2) := by
  unfold new ByteLists.new
  rw [← s.shown_newBuffer]
  rcases s.newBuffer with ⟨_ | r, t⟩ <;> rfl

/-- A buffer that is made and filled is a byte list that is made and edited. What a failed filling leaves
behind is freed, which touches no byte list.
-/
theorem shown_build {fill : Buffer → State → Bool × State}
    {e : Edit (Option (Ref Native.Buffer))}
    (fills : ∀ r t,
      t.byteList = s.byteList
      → r.index < t.byteLists.made
      → State.shown (fill (owner r) t) = t.byteLists.edit (some r) e)
    : State.shown ((new s).andThen fun b s => b.settle (fill b s))
      = ((s.byteLists.build e).1.map owner, (s.byteLists.build e).2) := by
  have same := s.byteLists.byteList_make
  unfold ByteLists.build new
  rw [← s.shown_newBuffer] at same ⊢
  cases outcome : s.newBuffer with
  | mk made t =>
      rw [outcome] at same
      cases made with
      | none => rfl
      | some r =>
          have has : r.index < t.byteLists.made := (State.newBuffer_some outcome).2
          have edited := fills r t same has
          have still := t.byteLists.made_edit (some r) e
          change State.shown ((owner r).settle (fill (owner r) t)) = _
          simp only [State.shown]
          change State.shown (fill (owner r) t) = _ at edited
          rw [← edited] at still ⊢
          cases filled : fill (owner r) t with
          | mk fits u =>
              rw [filled] at still
              cases fits with
              | true => rfl
              | false =>
                  refine congrArg (Prod.mk _) (State.byteLists_free (h := .buffer r) ?_)
                  exact Nat.lt_of_lt_of_eq has still.symm

/-- A buffer that is filled by an edit. -/
theorem shown_build_run (e : Edit Buffer) (s : State)
    : State.shown ((new s).andThen fun b s => b.settle (e.run b s))
      = ((s.byteLists.build (e.map Handle.raw)).1.map owner, (s.byteLists.build (e.map Handle.raw)).2) := by
  apply shown_build
  intro r t _ made
  exact e.shown_run fun _ same => Option.some.inj same ▸ made

/-- A buffer that is filled from a view holds the bytes of the view's byte list. -/
theorem shown_toBuffer (v : BufferView) (s : State)
    : State.shown (v.toBuffer s)
      = ((s.byteLists.build (.append ((s.byteLists.bytes? v.raw).getD []))).1.map owner,
          (s.byteLists.build (.append ((s.byteLists.bytes? v.raw).getD []))).2) := by
  apply shown_build
  intro r t same made
  have bytes : (v.slice t).bytes = (s.byteLists.bytes? v.raw).getD [] := by
    obtain ⟨raw⟩ := v
    cases raw with
    | none => rfl
    | some q => exact congrArg ByteList.bytes (congrFun same q)
  have filled := Edit.shown_run (s := t) (b := owner r) (.appendSlice (v.slice t))
    fun _ same => Option.some.inj same ▸ made
  refine filled.trans ?_
  rw [← bytes]
  rfl

end Buffer

-----------------------------------------------------------------------------------------
-- Questions
-----------------------------------------------------------------------------------------

namespace Question

theorem length_beq_zero (bytes : List UInt8)
    : (bytes.length == 0) = bytes.isEmpty := by
  cases bytes <;> rfl

/-- A wrapper answers from the byte list that it refers to, and touches none. -/
theorem shown_ask (q : Question) (b : Buffer) (s : State)
    : State.shown (q.ask b s) = (q.answer (s.byteLists.bytes? b.raw), s.byteLists) := by
  obtain ⟨raw, own⟩ := b
  cases raw with
  | none =>
      have reported := s.byteLists_raiseNullHandle .data
      cases q <;> exact congrArg (Prod.mk _) reported
  | some r =>
      cases q with
      | isEmpty => exact congrArg (fun empty => (Reply.flag empty, s.byteLists)) (length_beq_zero _)
      | toBytes | length | slice => rfl

/-- So does a view. -/
theorem look_eq (q : Question) (v : BufferView) (s : State)
    : q.look v s = q.answer (s.byteLists.bytes? v.raw) := by
  obtain ⟨raw⟩ := v
  cases raw with
  | none => cases q <;> rfl
  | some r =>
      cases q with
      | isEmpty => exact congrArg Reply.flag (length_beq_zero _)
      | toBytes | length | slice => rfl

end Question

end Custody
