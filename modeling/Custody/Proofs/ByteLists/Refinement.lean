import Custody.Proofs.ByteLists.Wrappers
import Custody.Proofs.ByteLists.Operations

/-! Wrappers of buffers and wrappers of byte lists agree: after any tasks of any threads they gave the same
answers, and the byte list of every native buffer has its bytes.
-/

namespace Custody

namespace State

variable {s t u : State}

/-- The frees that wait are of objects that were made. -/
def Grounded (s : State) : Prop :=
  ∀ h ∈ s.world.queue, s.world.Has h

/-- Nothing more waits than before, and what was made is there. -/
structure Steady (s t : State) : Prop where
  queue : t.world.queue = s.world.queue
  has : ∀ h, s.world.Has h → t.world.Has h

theorem Spares.steady (spares : s.Spares t)
    : s.Steady t :=
  ⟨spares.queue, spares.has⟩

theorem Steady.trans (first : s.Steady t) (second : t.Steady u)
    : s.Steady u :=
  ⟨second.queue.trans first.queue, fun h => second.has h ∘ first.has h⟩

theorem Steady.grounded (steady : s.Steady t) (grounded : s.Grounded)
    : t.Grounded := by
  intro h waits
  rw [steady.queue] at waits
  exact steady.has h (grounded h waits)

theorem steady_free (s : State) (h : NativeHandle)
    : s.Steady (s.free h) :=
  ⟨s.queue_free h, fun _ => s.has_free h⟩

theorem steady_dispose (b : Buffer) (s : State)
    : s.Steady (b.dispose s).2 := by
  unfold Handle.dispose
  cases b.owed with
  | none => exact (Spares.refl s).steady
  | some h => exact steady_free s h

theorem Grounded.enqueue (grounded : s.Grounded) {h : NativeHandle} (has : s.world.Has h)
    : (s.enqueue h).Grounded := by
  have waits
      : Grounded { s with world := { s.world with queue := s.world.queue ++ [h] } } := by
    intro g waiting
    have old : s.world.Has g := by
      rcases List.mem_append.1 waiting with before | last
      · exact grounded g before
      · exact List.mem_singleton.1 last ▸ has
    cases g <;> exact old
  unfold State.enqueue
  dsimp only
  split
  · intro g waiting
    have old := waits g waiting
    cases g <;> exact old
  · exact waits

theorem Grounded.drop (grounded : s.Grounded) {b : Buffer}
    (has : ∀ h, b.owed = some h → s.world.Has h)
    : (b.drop s).Grounded := by
  unfold Handle.drop
  cases owed : b.owed with
  | none => exact grounded
  | some h =>
      show (s.schedule h).Grounded
      unfold schedule
      split
      · exact (steady_free s h).grounded grounded
      · exact grounded.enqueue (has h owed)

theorem Grounded.flush (grounded : s.Grounded)
    : s.flush.2.Grounded := by
  unfold State.flush
  split
  · exact (Spares.of_same rfl rfl rfl rfl : s.Spares (s.note .flushOffLoop)).steady.grounded grounded
  · have emptied : (s.takeQueue.2.freeAll s.takeQueue.1).world.queue = [] := queue_freeAll _ _
    dsimp only
    intro h waits
    split at waits
    · rw [emptied] at waits
      contradiction
    · change h ∈ (s.takeQueue.2.freeAll s.takeQueue.1).world.queue at waits
      rw [emptied] at waits
      contradiction

end State

namespace Buffer

theorem steady_build {fill : Buffer → State → Bool × State}
    (tame : ∀ (b : Buffer) (t : State), t.Tame (fill b t).2) (s : State)
    : s.Steady ((new s).andThen fun b s => b.settle (fill b s)).2 := by
  have made := tame_new s
  unfold Attempt.andThen settle
  split
  · next b t eq =>
      rw [eq] at made
      have filled := (made.trans (tame b t)).spares.steady
      dsimp only
      split
      · exact filled
      · exact filled.trans (State.steady_dispose b _)
  · next eq =>
      rw [eq] at made
      exact made.spares.steady

end Buffer

-----------------------------------------------------------------------------------------
-- The reference for wrappers of buffers
-----------------------------------------------------------------------------------------

namespace BufferWrappers

/-- The reference for the wrappers: byte lists in place of the buffers. -/
def reference (σ : BufferWrappers) : ByteListWrappers where
  made := σ.world.buffers.size
  byteList := State.byteList { world := σ.world }
  failures i := ⟨(σ.threads i).failAlloc, (σ.threads i).failAppend⟩
  wrappers := σ.wrappers.map Handle.raw
  views := σ.views.map BufferView.raw
  replies := σ.replies

variable {σ : BufferWrappers} {i : Nat}

theorem byteLists_reference (σ : BufferWrappers) (i : Nat)
    : σ.reference.byteLists i = (σ.state i).byteLists :=
  rfl

theorem wrapper_reference (σ : BufferWrappers) (place : Nat)
    : σ.reference.wrapper place = (σ.wrapper place).raw :=
  List.getD_map _ Handle.null Handle.raw

theorem view_reference (σ : BufferWrappers) (place : Nat)
    : σ.reference.view place = (σ.view place).raw :=
  List.getD_map σ.views (⟨none⟩ : BufferView) BufferView.raw

theorem reference_put (σ : BufferWrappers) (i : Nat) (s : State)
    : (σ.put i s).reference = σ.reference.put i s.byteLists := by
  refine ByteListWrappers.ext rfl rfl (funext fun j => ?_) rfl rfl rfl
  show Failures.mk _ _ = if j = i then _ else _
  unfold put
  dsimp only
  split <;> rfl

theorem reference_addWrapper (σ : BufferWrappers) (b : Buffer)
    : (σ.addWrapper b).reference = σ.reference.addWrapper b.raw :=
  ByteListWrappers.ext rfl rfl rfl List.map_append rfl rfl

theorem reference_setWrapper (σ : BufferWrappers) (place : Nat) (b : Buffer)
    : (σ.setWrapper place b).reference = σ.reference.setWrapper place b.raw :=
  ByteListWrappers.ext rfl rfl rfl List.map_set rfl rfl

theorem reference_addView (σ : BufferWrappers) (v : BufferView)
    : (σ.addView v).reference = σ.reference.addView v.raw :=
  ByteListWrappers.ext rfl rfl rfl rfl List.map_append rfl

theorem reference_answer {α : Type} {ran : α × State} {out : α × ByteLists}
    (same : State.shown ran = out) (reply : α → Reply)
    : (σ.answer i ran reply).reference = σ.reference.answer i out reply := by
  subst same
  exact congrArg (ByteListWrappers.reply · _) (σ.reference_put i ran.2)

theorem reference_keep {made : Attempt BufferError Buffer}
    {out : Except BufferError (Ref Native.Buffer) × ByteLists}
    (same : State.shown made = (out.1.map Buffer.owner, out.2))
    : (σ.keep i made).reference = σ.reference.keep i out := by
  obtain ⟨result, p⟩ := out
  obtain ⟨answer, s⟩ := made
  have answered : answer = result.map Buffer.owner := congrArg Prod.fst same
  have shown : s.byteLists = p := congrArg Prod.snd same
  subst answered shown
  have went := σ.reference_put i s
  cases result with
  | ok r =>
      show ((σ.put i s).addWrapper (Buffer.owner r)).reference.reply _ = _
      rw [reference_addWrapper, went]
      rfl
  | error e => exact congrArg (ByteListWrappers.reply · _) went

theorem put_byteLists (τ : ByteListWrappers) (i : Nat)
    : τ.put i (τ.byteLists i) = τ := by
  refine ByteListWrappers.ext rfl rfl (funext fun j => ?_) rfl rfl rfl
  show (if j = i then _ else _) = _
  split
  · next here => exact here ▸ rfl
  · rfl

/-- What leaves the byte lists alone. -/
theorem reference_put_same {s : State} (same : s.byteLists = (σ.state i).byteLists)
    : (σ.put i s).reference = σ.reference := by
  rw [reference_put, same]
  exact put_byteLists σ.reference i

/-- Wrappers refer to buffers that were made, and only the frees of such wait. -/
structure Grounded (σ : BufferWrappers) : Prop where
  wrappers : ∀ place r, (σ.wrapper place).raw = some r → r.index < σ.world.buffers.size
  queue : (σ.state 0).Grounded

theorem Grounded.state (grounded : σ.Grounded) (i : Nat)
    : (σ.state i).Grounded :=
  grounded.queue

theorem Grounded.owed (grounded : σ.Grounded) (place : Nat) {h : NativeHandle}
    (owed : (σ.wrapper place).owed = some h)
    : σ.world.Has h := by
  unfold Handle.owed at owed
  split at owed
  · cases raw : (σ.wrapper place).raw with
    | none =>
        rw [raw] at owed
        contradiction
    | some r =>
        rw [raw] at owed
        exact Option.some.inj owed ▸ grounded.wrappers place r raw
  · contradiction

-----------------------------------------------------------------------------------------
-- One task
-----------------------------------------------------------------------------------------

theorem byteLists_dispose (grounded : σ.Grounded) (place : Nat)
    : ((σ.wrapper place).dispose (σ.state i)).2.byteLists = (σ.state i).byteLists := by
  unfold Handle.dispose
  cases owed : (σ.wrapper place).owed with
  | none => rfl
  | some h => exact State.byteLists_free (s := σ.state i) (grounded.owed place owed)

theorem byteLists_drop (grounded : σ.Grounded) (place : Nat)
    : ((σ.wrapper place).drop (σ.state i)).byteLists = (σ.state i).byteLists :=
  State.byteLists_schedulePointer (s := σ.state i) fun _ => grounded.owed place

/-- A new flag keeps what the wrapper refers to. -/
theorem reference_setOwn (σ : BufferWrappers) (place : Nat) (own : Bool)
    : (σ.setWrapper place { σ.wrapper place with own }).reference = σ.reference := by
  rw [reference_setWrapper, show ({ σ.wrapper place with own } : Buffer).raw = _ from rfl,
    ← wrapper_reference]
  refine ByteListWrappers.ext rfl rfl rfl ?_ rfl rfl
  show σ.reference.wrappers.set place (σ.reference.wrappers.getD place none) = σ.reference.wrappers
  by_cases present : place < σ.reference.wrappers.length
  · rw [List.getD_eq_getElem _ _ present, List.set_getElem_self]
  · exact List.set_eq_of_length_le (Nat.le_of_not_lt present)

theorem byteLists_failNextWriteTo (σ : BufferWrappers) (i : Nat) (raw : Option (Ref Native.Buffer))
    : ((σ.pointer raw).elim (σ.state i) (σ.state i).failNextWriteTo).byteLists
      = (σ.state i).byteLists.failNextChange (σ.pointer raw) := by
  cases pointed : σ.pointer raw with
  | none => rfl
  | some r =>
      obtain ⟨-, made⟩ := Option.filter_eq_some_iff.1 pointed
      exact State.byteLists_setBuffer (of_decide_eq_true made) _

/-- A task does to the byte lists that stand for the buffers what it does to the buffers, and answers the
same; one case for each task.
-/
theorem reference_perform (grounded : σ.Grounded) (i : Nat) (t : Task)
    : (σ.perform i t).reference = σ.reference.perform i t := by
  have made (place : Nat) := grounded.wrappers place
  have replied {τ : BufferWrappers} {υ : ByteListWrappers} (same : τ.reference = υ) (r : Reply)
      : (τ.reply r).reference = υ.reply r :=
    congrArg (ByteListWrappers.reply · r) same
  cases t with
  | nativeBuffer => exact reference_answer (σ.state i).shown_newBuffer .pointer
  | new => exact reference_keep (Buffer.shown_new (σ.state i))
  | ofBytes bytes => exact reference_keep (Buffer.shown_build_run (.append bytes) (σ.state i))
  | ofBytesLen bytes n => exact reference_keep (Buffer.shown_build_run (.appendLen bytes n) (σ.state i))
  | copy source =>
      dsimp only [ByteListWrappers.perform]
      rw [wrapper_reference]
      exact reference_keep (Buffer.shown_build_run (.appendBuffer (σ.wrapper source)) (σ.state i))
  | copyView view =>
      dsimp only [ByteListWrappers.perform]
      rw [view_reference]
      exact reference_keep (Buffer.shown_toBuffer (σ.view view) (σ.state i))
  | adopt raw own => exact replied (reference_addWrapper σ _) _
  | lookAt raw => exact replied (reference_addView σ _) _
  | view place =>
      dsimp only [ByteListWrappers.perform]
      rw [wrapper_reference]
      exact replied (reference_addView σ _) _
  | setOwn place own => exact replied (reference_setOwn σ place own) _
  | release place =>
      dsimp only [ByteListWrappers.perform]
      rw [wrapper_reference]
      exact replied (reference_setWrapper σ place _) _
  | dispose place =>
      refine replied ((reference_setWrapper _ place _).trans ?_) _
      rw [reference_put_same (byteLists_dispose grounded place)]
      rfl
  | drop place =>
      refine replied ((reference_setWrapper _ place _).trans ?_) _
      rw [reference_put_same (byteLists_drop grounded place)]
      rfl
  | edit place e =>
      have edited := (e.map σ.wrapper).shown_run (s := σ.state i) (made place)
      rw [Edit.map_map] at edited
      have named : σ.reference.wrapper = Handle.raw ∘ σ.wrapper := funext σ.wrapper_reference
      dsimp only [ByteListWrappers.perform]
      rw [wrapper_reference, named]
      exact reference_answer edited .flag
  | reset place | freeContents place =>
      dsimp only [ByteListWrappers.perform]
      rw [wrapper_reference, byteLists_reference, ← Buffer.byteLists_reset (made place)]
      exact replied (σ.reference_put i _) _
  | ask place q =>
      dsimp only [ByteListWrappers.perform]
      rw [wrapper_reference]
      refine (reference_answer (q.shown_ask (σ.wrapper place) (σ.state i)) id).trans ?_
      exact congrArg (ByteListWrappers.reply · _) (put_byteLists σ.reference i)
  | look view q =>
      dsimp only [ByteListWrappers.perform]
      rw [view_reference]
      exact replied rfl _ |>.trans (congrArg σ.reference.reply (q.look_eq (σ.view view) (σ.state i)))
  | flush | flushTask =>
      exact replied (reference_put_same (State.byteLists_flush (grounded.state i))) _
  | setMainLoop on =>
      exact replied (reference_put_same (s := { σ.state i with thread.onMainLoop := on }) rfl) _
  | failNextAlloc | failNextWrite => exact replied (σ.reference_put i _) _
  | failNextWriteTo raw =>
      refine replied (σ.reference_put i _) _ |>.trans ?_
      rw [byteLists_failNextWriteTo]
      rfl

-----------------------------------------------------------------------------------------
-- Whole runs
-----------------------------------------------------------------------------------------

theorem grounded_start (settings : Settings) (threads : Nat → Thread)
    : (start settings threads).Grounded where
  wrappers := nofun
  queue := nofun

theorem Grounded.keep (grounded : σ.Grounded) {made : Attempt BufferError Buffer}
    (steady : (σ.state i).Steady made.2)
    : ((σ.keep i made).state 0).Grounded := by
  obtain ⟨result, s⟩ := made
  have kept := steady.grounded (grounded.state i)
  cases result <;> exact kept

theorem steady_failNextWriteTo (σ : BufferWrappers) (i : Nat) (raw : Option (Ref Native.Buffer))
    : (σ.state i).Steady ((σ.pointer raw).elim (σ.state i) (σ.state i).failNextWriteTo) := by
  cases σ.pointer raw with
  | none => exact (State.Spares.refl _).steady
  | some r =>
      have spares : (σ.state i).Spares ((σ.state i).failNextWriteTo r) := State.spares_setBuffer rfl
      exact spares.steady

/-- The frees that wait stay frees of objects that were made; one case for each task. -/
theorem Grounded.queue_perform (grounded : σ.Grounded) (i : Nat) (t : Task)
    : ((σ.perform i t).state 0).Grounded := by
  have now := grounded.state i
  have kept {s : State} (steady : (σ.state i).Steady s) : s.Grounded := steady.grounded now
  cases t with
  | nativeBuffer => exact (kept (State.spares_newBuffer _).steady :)
  | new => exact grounded.keep (Buffer.tame_new _).spares.steady
  | ofBytes bytes =>
      exact grounded.keep (Buffer.steady_build (Edit.append bytes).tame_run _)
  | ofBytesLen bytes n =>
      exact grounded.keep (Buffer.steady_build (Edit.appendLen bytes n).tame_run _)
  | copy source =>
      exact grounded.keep (Buffer.steady_build (Edit.appendBuffer (σ.wrapper source)).tame_run _)
  | copyView view =>
      refine grounded.keep (Buffer.steady_build (fun b t => ?_) _)
      exact (Edit.appendSlice ((σ.view view).slice t)).tame_run b t
  | adopt | lookAt | view | setOwn | release | look | setMainLoop | failNextAlloc | failNextWrite =>
      exact now
  | dispose place => exact (kept (State.steady_dispose (σ.wrapper place) _) :)
  | drop place => exact now.drop fun _ => grounded.owed place
  | edit place e => exact (kept ((e.map σ.wrapper).tame_run (σ.wrapper place) _).spares.steady :)
  | reset place | freeContents place => exact (kept (Buffer.tame_reset (σ.wrapper place) _).spares.steady :)
  | ask place q => exact (kept (q.tame_ask (σ.wrapper place) _).spares.steady :)
  | flush | flushTask => exact now.flush
  | failNextWriteTo raw => exact (kept (steady_failNextWriteTo σ i raw) :)

theorem Grounded.perform (grounded : σ.Grounded) (i : Nat) (t : Task)
    : (σ.perform i t).Grounded := by
  refine ⟨fun place r refers => ?_, grounded.queue_perform i t⟩
  have extended := σ.reference.extends_perform i t
  rw [← reference_perform grounded i t] at extended
  rw [← wrapper_reference] at refers
  rcases extended.wrappers place r refers with old | new
  · rw [wrapper_reference] at old
    exact Nat.lt_of_lt_of_le (grounded.wrappers place r old) extended.made
  · exact new

theorem Grounded.run (grounded : σ.Grounded) (es : List (Nat × Task))
    : (σ.run es).Grounded := by
  induction es generalizing σ with
  | nil => exact grounded
  | cons e rest ih => exact ih (grounded.perform e.1 e.2)

/-- The reference after some tasks is the one for the wrappers after the same tasks. -/
theorem reference_run (grounded : σ.Grounded) (es : List (Nat × Task))
    : (σ.run es).reference = σ.reference.run es := by
  induction es generalizing σ with
  | nil => rfl
  | cons e rest ih =>
      refine (ih (grounded.perform e.1 e.2)).trans ?_
      exact congrArg (ByteListWrappers.run · rest) (reference_perform grounded e.1 e.2)

end BufferWrappers

end Custody
