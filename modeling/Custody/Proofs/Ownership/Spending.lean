import Custody.Proofs.Updates.Wrappers

/-! What operations spend: a free of a native object is spent when it runs or is put in the queue,
and each operation spends at most one.
-/

namespace Custody

-----------------------------------------------------------------------------------------
-- Frees of an object
-----------------------------------------------------------------------------------------

namespace World

/-- How often a native object was freed. -/
def freed (w : World) : NativeHandle → Nat
  | .buffer r => (w.buffers.get r).frees
  | .cursor r => (w.cursors.get r).frees
  | .message r => (w.messages.get r).unrefs

/-- How many frees of a native object wait. -/
def queued (w : World) (h : NativeHandle) : Nat :=
  w.queue.count h

/-- How many frees of a native object were ever asked for. -/
def spent (w : World) (h : NativeHandle) : Nat :=
  w.freed h + w.queued h

/-- Whether a native object was made. -/
def Has (w : World) : NativeHandle → Prop
  | .buffer r => r.index < w.buffers.size
  | .cursor r => r.index < w.cursors.size
  | .message r => r.index < w.messages.size

instance (w : World) (h : NativeHandle) : Decidable (w.Has h) := by
  cases h <;> exact inferInstanceAs (Decidable (_ < _))

end World

/-- One where the handle is the one meant. -/
def bill (paid : Option NativeHandle) (h : NativeHandle) : Nat :=
  if paid = some h then 1 else 0

@[simp]
theorem bill_none (h : NativeHandle)
    : bill none h = 0 :=
  rfl

@[simp]
theorem bill_self (h : NativeHandle)
    : bill (some h) h = 1 :=
  if_pos rfl

theorem bill_of_ne {g h : NativeHandle} (ne : g ≠ h)
    : bill (some g) h = 0 :=
  if_neg fun same => ne (Option.some.inj same)

theorem count_singleton (g h : NativeHandle)
    : [g].count h = bill (some g) h := by
  by_cases same : g = h
  · simp [same]
  · rw [bill_of_ne same]
    simp [same]

namespace State

/-- The second state is the first after one free of an object was spent, if any is named; objects
stay.
-/
structure Pays (paid : Option NativeHandle) (s t : State) : Prop where
  spent : ∀ h, t.world.spent h = s.world.spent h + bill paid h
  has : ∀ h, s.world.Has h → t.world.Has h

/-- The second state is the first after something that frees nothing and queues nothing. -/
structure Spares (s t : State) : Prop where
  freed : ∀ h, t.world.freed h = s.world.freed h
  queue : t.world.queue = s.world.queue
  has : ∀ h, s.world.Has h → t.world.Has h

variable {s t u : State} {paid : Option NativeHandle}

/-- Frees are counted at the objects and in the queue. -/
theorem Spares.of_same (buffers : t.world.buffers = s.world.buffers)
    (cursors : t.world.cursors = s.world.cursors) (messages : t.world.messages = s.world.messages)
    (queue : t.world.queue = s.world.queue)
    : s.Spares t where
  freed h := by cases h <;> simp only [World.freed, buffers, cursors, messages]
  queue := queue
  has h old := by
    cases h <;> simpa only [World.Has, buffers, cursors, messages] using old

theorem Spares.refl (s : State)
    : s.Spares s :=
  .of_same rfl rfl rfl rfl

theorem Spares.trans (first : s.Spares t) (second : t.Spares u)
    : s.Spares u where
  freed h := (second.freed h).trans (first.freed h)
  queue := second.queue.trans first.queue
  has h := second.has h ∘ first.has h

theorem Spares.pays (spares : s.Spares t)
    : Pays none s t where
  spent h := by
    rw [World.spent, World.spent, World.queued, World.queued, spares.freed, spares.queue]
    rfl
  has := spares.has

theorem Pays.refl (s : State)
    : Pays none s s :=
  (Spares.refl s).pays

theorem Pays.after (pays : Pays paid t u) (before : Pays none s t)
    : Pays paid s u where
  spent h := by rw [pays.spent, before.spent, bill_none, Nat.add_zero]
  has h := pays.has h ∘ before.has h

theorem Pays.before (pays : Pays paid s t) (after : Pays none t u)
    : Pays paid s u where
  spent h := by rw [after.spent, pays.spent, bill_none, Nat.add_zero]
  has h := after.has h ∘ pays.has h

-----------------------------------------------------------------------------------------
-- What frees nothing
-----------------------------------------------------------------------------------------

theorem spares_setBuffer {r : Ref Native.Buffer} {b : Native.Buffer}
    (frees : b.frees = (s.buffer r).frees)
    : s.Spares (s.setBuffer r b) where
  freed h := by
    cases h with
    | buffer q => exact s.world.buffers.keeps_put frees q
    | cursor q | message q => rfl
  queue := rfl
  has h old := by
    cases h with
    | buffer q => exact Nat.lt_of_lt_of_le old (s.world.buffers.size_le_put r b)
    | cursor q | message q => exact old

theorem spares_setCursor {r : Ref Native.Cursor} {c : Native.Cursor}
    (frees : c.frees = (s.cursor r).frees)
    : s.Spares (s.setCursor r c) where
  freed h := by
    cases h with
    | cursor q => exact s.world.cursors.keeps_put frees q
    | buffer q | message q => rfl
  queue := rfl
  has h old := by
    cases h with
    | cursor q => exact Nat.lt_of_lt_of_le old (s.world.cursors.size_le_put r c)
    | buffer q | message q => exact old

theorem spares_setMessage {r : Ref Native.Message} {m : Native.Message}
    (unrefs : m.unrefs = (s.message r).unrefs)
    : s.Spares (s.setMessage r m) where
  freed h := by
    cases h with
    | message q => exact s.world.messages.keeps_put unrefs q
    | buffer q | cursor q => rfl
  queue := rfl
  has h old := by
    cases h with
    | message q => exact Nat.lt_of_lt_of_le old (s.world.messages.size_le_put r m)
    | buffer q | cursor q => exact old

/-- A new object was not freed yet. -/
theorem spares_newBuffer (s : State)
    : s.Spares s.newBuffer.2 := by
  unfold newBuffer
  split
  · exact .of_same rfl rfl rfl rfl
  · refine ⟨fun h => ?_, rfl, fun h old => ?_⟩
    · cases h with
      | buffer q => exact s.world.buffers.keeps_alloc (f := Native.Buffer.frees) rfl q
      | cursor q | message q => rfl
    · cases h with
      | buffer q => exact Nat.lt_trans old (s.world.buffers.size_lt_alloc {})
      | cursor q | message q => exact old

theorem spares_newCursor (s : State) (elements : List Native.Element)
    : s.Spares (s.newCursor { rest := elements }).2 := by
  refine ⟨fun h => ?_, rfl, fun h old => ?_⟩
  · cases h with
    | cursor q =>
        exact s.world.cursors.keeps_alloc (a := { rest := elements }) (f := Native.Cursor.frees) rfl q
    | buffer q | message q => rfl
  · cases h with
    | cursor q => exact Nat.lt_trans old (s.world.cursors.size_lt_alloc _)
    | buffer q | message q => exact old

/-- Nobody gave back a reference to a new message yet. -/
theorem spares_newMessage (s : State) {m : Native.Message} (unrefs : m.unrefs = 0)
    : s.Spares (s.newMessage m).2 := by
  refine ⟨fun h => ?_, rfl, fun h old => ?_⟩
  · cases h with
    | message q => exact s.world.messages.keeps_alloc (f := Native.Message.unrefs) unrefs q
    | buffer q | cursor q => rfl
  · cases h with
    | message q => exact Nat.lt_trans old (s.world.messages.size_lt_alloc m)
    | buffer q | cursor q => exact old

/-- What is tame frees nothing and lets nothing wait; one case for each update. -/
theorem Tame.spares (tame : Tame s t)
    : s.Spares t := by
  induction tame with
  | refl s => exact .refl s
  | trans _ _ first second => exact first.trans second
  | note | raise | written => exact .of_same rfl rfl rfl rfl
  | kindNumber s kind =>
      unfold State.kindNumber
      split
      · exact .refl s
      · exact .of_same rfl rfl rfl rfl
  | setBuffer frees => exact spares_setBuffer frees
  | newBuffer s => exact spares_newBuffer s
  | setCursor frees => exact spares_setCursor frees
  | setMessage _ unrefs _ _ => exact spares_setMessage unrefs
  | setCall => exact .of_same rfl rfl rfl rfl
  | bodyCursors same =>
      rw [same]
      exact .of_same rfl rfl rfl rfl
  | planned same =>
      rw [same]
      exact .of_same rfl rfl rfl rfl

theorem newBuffer_some {r : Ref Native.Buffer} (made : s.newBuffer = (some r, t))
    : ¬ s.world.Has (.buffer r) ∧ t.world.Has (.buffer r) := by
  unfold newBuffer at made
  split at made
  · simp at made
  · obtain ⟨rfl, rfl⟩ : _ = r ∧ _ = t := by simpa using made
    refine ⟨Nat.lt_irrefl _, ?_⟩
    exact s.world.buffers.size_lt_alloc {}

-----------------------------------------------------------------------------------------
-- Frees now and frees later
-----------------------------------------------------------------------------------------

theorem freed_free_of_ne (s : State) {g h : NativeHandle} (ne : g ≠ h)
    : (s.free g).world.freed h = s.world.freed h := by
  cases g with
  | buffer r =>
      cases h with
      | buffer q =>
          have other : q ≠ r := fun same => ne (congrArg _ same.symm)
          exact congrArg Native.Buffer.frees (s.world.buffers.get_put_of_ne _ other)
      | cursor q | message q => rfl
  | cursor r =>
      cases h with
      | buffer q | message q => rfl
      | cursor q =>
          have other : q ≠ r := fun same => ne (congrArg _ same.symm)
          exact congrArg Native.Cursor.frees (s.world.cursors.get_put_of_ne _ other)
  | message r =>
      cases h with
      | buffer q | cursor q => rfl
      | message q =>
          have other : q ≠ r := fun same => ne (congrArg _ same.symm)
          exact congrArg Native.Message.unrefs (s.world.messages.get_put_of_ne _ other)

/-- A free runs once more for its object, and for no other. -/
theorem freed_free (s : State) (g h : NativeHandle)
    : (s.free g).world.freed h = s.world.freed h + bill (some g) h := by
  by_cases same : g = h
  · subst h
    rw [bill_self]
    cases g with
    | buffer r => exact congrArg Native.Buffer.frees (s.world.buffers.get_put_self r _)
    | cursor r => exact congrArg Native.Cursor.frees (s.world.cursors.get_put_self r _)
    | message r => exact congrArg Native.Message.unrefs (s.world.messages.get_put_self r _)
  · rw [bill_of_ne same, freed_free_of_ne s same]
    rfl

theorem queue_free (s : State) (g : NativeHandle)
    : (s.free g).world.queue = s.world.queue := by
  cases g <;> rfl

theorem has_free (s : State) (g : NativeHandle) {h : NativeHandle} (old : s.world.Has h)
    : (s.free g).world.Has h := by
  cases g with
  | buffer r =>
      cases h with
      | buffer q => exact Nat.lt_of_lt_of_le old (s.world.buffers.size_le_put r _)
      | cursor q | message q => exact old
  | cursor r =>
      cases h with
      | cursor q => exact Nat.lt_of_lt_of_le old (s.world.cursors.size_le_put r _)
      | buffer q | message q => exact old
  | message r =>
      cases h with
      | buffer q | cursor q => exact old
      | message q => exact Nat.lt_of_lt_of_le old (s.world.messages.size_le_put r _)

theorem pays_free (s : State) (g : NativeHandle)
    : Pays (some g) s (s.free g) where
  spent h := by
    simp only [World.spent, World.queued, queue_free, freed_free]
    omega
  has _ := has_free s g

theorem pays_note (s : State) (e : Event)
    : Pays none s (s.note e) :=
  (Spares.of_same rfl rfl rfl rfl : s.Spares (s.note e)).pays

theorem pays_enqueue (s : State) (g : NativeHandle)
    : Pays (some g) s (s.enqueue g) := by
  have waits
      : Pays (some g) s { s with world := { s.world with queue := s.world.queue ++ [g] } } := by
    refine ⟨fun h => ?_, fun _ old => ?_⟩
    · rw [World.spent, World.queued, List.count_append, count_singleton, ← Nat.add_assoc]
      cases h <;> rfl
    · exact old
  unfold enqueue
  dsimp only
  split
  · exact waits.before (pays_note _ _)
  · exact waits

/-- Now or later, the free of an object is spent once. -/
theorem pays_schedule (s : State) (g : NativeHandle)
    : Pays (some g) s (s.schedule g) := by
  unfold schedule
  split
  · exact pays_free s g
  · exact pays_enqueue s g

theorem pays_schedulePointer (s : State) (pointer : Option NativeHandle)
    : Pays pointer s (s.schedulePointer pointer) := by
  cases pointer with
  | none => exact .refl s
  | some g => exact pays_schedule s g

/-- Frees in a row run once for each time that an object stands in the row. -/
theorem freed_freeAll (s : State) (batch : List NativeHandle) (h : NativeHandle)
    : (s.freeAll batch).world.freed h = s.world.freed h + batch.count h := by
  unfold freeAll
  induction batch generalizing s with
  | nil => rfl
  | cons g rest ih =>
      rw [List.foldl_cons, ih, freed_free, List.count_cons, ← count_singleton, List.count_cons]
      simp only [List.count_nil]
      omega

theorem queue_freeAll (s : State) (batch : List NativeHandle)
    : (s.freeAll batch).world.queue = s.world.queue := by
  unfold freeAll
  induction batch generalizing s with
  | nil => rfl
  | cons g rest ih => rw [List.foldl_cons, ih, queue_free]

theorem has_freeAll (s : State) (batch : List NativeHandle) {h : NativeHandle}
    (old : s.world.Has h)
    : (s.freeAll batch).world.Has h := by
  unfold freeAll
  induction batch generalizing s with
  | nil => exact old
  | cons g rest ih => exact ih (s.free g) (has_free s g old)

/-- A flush spends nothing: what it frees was spent when it was queued. -/
theorem pays_flush (s : State)
    : Pays none s s.flush.2 := by
  unfold flush
  split
  · exact pays_note s _
  · have ran : Pays none s (s.takeQueue.2.freeAll s.takeQueue.1) := by
      refine ⟨fun h => ?_, fun h old => ?_⟩
      · rw [World.spent, World.queued, queue_freeAll, freed_freeAll]
        rfl
      · exact has_freeAll _ _ (show s.takeQueue.2.world.Has h by cases h <;> exact old)
    dsimp only
    split
    · exact ran
    · exact ran.before (pays_note _ _)

/-- On the main loop nothing waits after a flush. -/
theorem queue_flush (s : State) (main : s.thread.onMainLoop = true)
    : s.flush.2.world.queue = [] := by
  unfold flush
  have emptied : (s.takeQueue.2.freeAll s.takeQueue.1).world.queue = [] := queue_freeAll _ _
  rw [main]
  simp only [Bool.not_true, Bool.false_eq_true, if_false]
  split <;> exact emptied

end State

-----------------------------------------------------------------------------------------
-- The end of a token
-----------------------------------------------------------------------------------------

namespace Handle

variable {α : Type} [Freeable α]

/-- Disposing of a token spends what the token owes. -/
theorem pays_dispose (h : Handle α) (s : State)
    : State.Pays h.owed s (h.dispose s).2 := by
  unfold dispose
  cases h.owed with
  | none => exact .refl s
  | some g => exact State.pays_free s g

/-- Dropping a token spends what the token owes. -/
theorem pays_drop (h : Handle α) (s : State)
    : State.Pays h.owed s (h.drop s) :=
  State.pays_schedulePointer s h.owed

end Handle

-----------------------------------------------------------------------------------------
-- Making buffers
-----------------------------------------------------------------------------------------

/-- The ways in which the making of a buffer can end: with an owner of a new buffer, with nothing,
or with a new buffer whose free is spent.
-/
inductive State.Built (s : State) : Attempt BufferError Buffer → Prop
  | made (r : Ref Native.Buffer) (t : State) (new : ¬ s.world.Has (.buffer r))
      (has : t.world.Has (.buffer r)) (pays : Pays none s t)
    : Built s (.ok { raw := some r, own := true }, t)
  | refused (e : BufferError) (t : State) (pays : Pays none s t) : Built s (.error e, t)
  | undone (e : BufferError) (r : Ref Native.Buffer) (t : State) (new : ¬ s.world.Has (.buffer r))
      (has : t.world.Has (.buffer r)) (pays : Pays (some (.buffer r)) s t)
    : Built s (.error e, t)

namespace Buffer

theorem built_new (s : State)
    : s.Built (new s) := by
  have allocated := s.spares_newBuffer
  unfold new
  split
  · next r t made =>
      rw [made] at allocated
      obtain ⟨new, has⟩ := State.newBuffer_some made
      exact .made r t new has allocated.pays
  · next t refused =>
      rw [refused] at allocated
      exact .refused _ _ (allocated.pays.before (State.pays_note _ _))

/-- A buffer that is made and then filled is freed at once if the filling fails. -/
theorem built_settle (s : State) {fill : Buffer → State → Bool × State}
    (tame : ∀ (b : Buffer) (t : State), t.Tame (fill b t).2)
    : s.Built ((new s).andThen fun b s => b.settle (fill b s)) := by
  have made := built_new s
  unfold Attempt.andThen
  split
  · next b t eq =>
      rw [eq] at made
      cases made with
      | made r _ new has pays =>
          have filled := (tame { raw := some r, own := true } t).spares
          have hasNow := filled.has _ has
          unfold settle
          dsimp only
          split
          · exact .made r _ new hasNow (pays.before filled.pays)
          · have disposed := Handle.pays_dispose (α := Native.Buffer)
              { raw := some r, own := true } (fill { raw := some r, own := true } t).2
            have undone := disposed.after (pays.before filled.pays)
            exact .undone _ r _ new (disposed.has _ hasNow) undone
  · next e t eq =>
      rw [eq] at made
      cases made with
      | refused _ _ pays => exact .refused e t pays
      | undone _ r _ new has pays => exact .undone e r t new has pays

theorem built_ofBytesLen (bytes : List UInt8) (n : Nat) (s : State)
    : s.Built (ofBytesLen bytes n s) :=
  built_settle s (Edit.appendLen bytes n).tame_run

theorem built_copy (source : Buffer) (s : State)
    : s.Built (source.copy s) :=
  built_settle s (Edit.appendBuffer source).tame_run

theorem built_toBuffer (v : BufferView) (s : State)
    : s.Built (v.toBuffer s) :=
  built_settle s fun b t => (Edit.appendSlice (v.slice t)).tame_run b t

end Buffer

-----------------------------------------------------------------------------------------
-- Emptying cursors
-----------------------------------------------------------------------------------------

namespace Cursor

variable {k : ElementKind}

/-- Asking for values keeps the token of a cursor. -/
theorem handle_next (c : Cursor k) (s : State)
    : (c.next s).2.1.handle = c.handle := by
  unfold next
  split
  · rfl
  · split
    · rfl
    · split <;> rfl

theorem handle_take (n : Nat) (c : Cursor k) (s : State)
    : (take n c s).2.1.handle = c.handle := by
  induction n generalizing c s with
  | zero => rfl
  | succ n ih =>
      have same := handle_next c s
      unfold take
      split
      · next eq =>
          rw [eq] at same
          exact same
      · next c t eq =>
          rw [eq] at same
          exact (ih c t).trans same

/-- Collecting ends the wrapper, and spends what its token owes. -/
theorem pays_collect (c : Cursor k) (s : State)
    : State.Pays c.handle.owed s (c.collect s).2 := by
  have taken := (tame_take (c.remaining s + 1) c s).spares
  have dropped := Handle.pays_drop (take (c.remaining s + 1) c s).2.1.handle
    (take (c.remaining s + 1) c s).2.2
  rw [congrArg Handle.owed (handle_take _ c s)] at dropped
  exact dropped.after taken.pays

end Cursor

end Custody
