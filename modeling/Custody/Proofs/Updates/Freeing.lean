import Custody.Handle

/-! What the end of a wrapper and a flush are made of: frees that run, frees that wait, and reports. What
each of these keeps, the whole keeps, whatever was freed and whether it was freed now or later.
-/

namespace Custody.State

/-- The second state comes from the first by frees, and by changes of the queue of frees and of the log. -/
inductive Freeing : State → State → Prop
  | refl (s : State) : Freeing s s
  | trans {s t u : State} (first : Freeing s t) (second : Freeing t u) : Freeing s u
  | free (s : State) (h : NativeHandle) : Freeing s (s.free h)
  /-- Only what waits and what is reported changes. -/
  | waiting {s t : State}
      (same : t = { s with world := { s.world with queue := t.world.queue, log := t.world.log } })
    : Freeing s t

/-- Frees leave the record of the thread alone; by induction on them. -/
theorem Freeing.thread {s t : State} (frees : Freeing s t)
    : t.thread = s.thread := by
  induction frees with
  | refl => rfl
  | trans _ _ first second => exact second.trans first
  | free s h => cases h <;> rfl
  | waiting same =>
      rw [same]

theorem freeing_schedulePointer (s : State) (h : Option NativeHandle)
    : Freeing s (s.schedulePointer h) := by
  cases h with
  | none => exact .refl s
  | some h =>
      show Freeing s (s.schedule h)
      unfold schedule enqueue
      dsimp only
      split
      · exact .free s h
      · split <;> exact .waiting rfl

/-- By induction on the frees. -/
theorem freeing_freeAll (s : State) (batch : List NativeHandle)
    : Freeing s (s.freeAll batch) := by
  unfold freeAll
  induction batch generalizing s with
  | nil => exact .refl s
  | cons h rest ih => exact (Freeing.free s h).trans (ih (s.free h))

theorem freeing_flush (s : State)
    : Freeing s s.flush.2 := by
  unfold flush
  split
  · exact .waiting rfl
  · have taken : Freeing s s.takeQueue.2 := .waiting rfl
    have ran := taken.trans (freeing_freeAll s.takeQueue.2 s.takeQueue.1)
    dsimp only
    split
    · exact ran
    · exact ran.trans (.waiting rfl)

theorem freeing_dispose {α : Type} [Freeable α] (h : Handle α) (s : State)
    : Freeing s (h.dispose s).2 := by
  unfold Handle.dispose
  cases h.owed with
  | none => exact .refl s
  | some g => exact .free s g

end Custody.State
