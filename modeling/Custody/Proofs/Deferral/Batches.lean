import Custody.Proofs.Ownership.Spending
import Custody.Proofs.Updates.Freeing

/-! The queue of frees under many threads. A flush takes the whole queue in one step and then runs
its frees one by one, and in between any thread, on the main loop or not, goes on scheduling frees
and flushing.
-/

namespace Custody

/-- A flush that took a batch of frees out of the queue. -/
structure Batch where
  thread : Nat
  /-- Whether the main loop called for it. -/
  task : Bool
  taken : List NativeHandle
  /-- The frees that ran, in the order in which they ran. -/
  freed : List NativeHandle := []
  left : List NativeHandle
  returned : Bool := false

/-- The records of all threads, the world they share, the flushes that took a batch, and all frees
that were ever put in the queue, in the order in which they were.
-/
structure Deferral where
  threads : Nat → Thread
  world : World
  batches : List Batch := []
  queued : List NativeHandle := []

namespace Deferral

/-- What a thread does in one step. -/
inductive Action
  | schedule (thread : Nat) (h : Option NativeHandle)
  /-- A flush is called, by other code or as a task of the main loop. -/
  | flush (thread : Nat) (task : Bool)
  /-- The flush with this number runs its next free, or returns. -/
  | proceed (place : Nat)
  | setMainLoop (thread : Nat) (on : Bool)

/-- What a flush answers. -/
inductive Answer
  | count (n : Nat)
  /-- Whether the main loop is to call again. -/
  | again (again : Bool)
deriving DecidableEq

/-- The answer of a flush that ran some number of frees. -/
def answer (task : Bool) (n : Nat) : Answer :=
  if task then .again true else .count n

/-- At the start nothing waits; objects may be there, and may have been freed. -/
def start (world : World) (threads : Nat → Thread) : Deferral :=
  { threads, world := { world with queue := [] } }

/-- The state in which a thread runs. -/
def state (σ : Deferral) (thread : Nat) : State :=
  { thread := σ.threads thread, world := σ.world }

/-- A flush that took its batch goes on by one step. -/
def resume (σ : Deferral) (place : Nat) (b : Batch) : Option Answer × Deferral :=
  match b.left with
  | h :: left =>
      (none,
        { σ with
          world := ((σ.state b.thread).free h).world
          batches := σ.batches.set place { b with freed := b.freed ++ [h], left } })
  | [] =>
      let s := σ.state b.thread
      let s := if b.taken.isEmpty then s else s.note (.flushed b.taken.length)
      (some (answer b.task b.taken.length),
        { σ with world := s.world, batches := σ.batches.set place { b with returned := true } })

/-- One step, and the answer of the flush that returns in it. -/
def act (σ : Deferral) : Action → Option Answer × Deferral
  | .schedule i h =>
      let queued := if (σ.state i).freesInline then σ.queued else σ.queued ++ h.toList
      (none, { σ with world := ((σ.state i).schedulePointer h).world, queued })
  | .flush i task =>
      if !(σ.threads i).onMainLoop then
        (some (answer task 0), { σ with world := ((σ.state i).note .flushOffLoop).world })
      else
        let (taken, s) := (σ.state i).takeQueue
        (none,
          { σ with
            world := s.world
            batches := σ.batches ++ [{ thread := i, task, taken, left := taken }] })
  | .proceed place =>
      match σ.batches[place]? with
      | none => (none, σ)
      | some b => if b.returned then (none, σ) else σ.resume place b
  | .setMainLoop i on =>
      (none,
        { σ with
          threads := fun j => if j = i then { σ.threads i with onMainLoop := on } else σ.threads j })

def step (σ : Deferral) (a : Action) : Deferral :=
  (σ.act a).2

def run (σ : Deferral) (actions : List Action) : Deferral :=
  actions.foldl step σ

/-- The object whose free an action asks for. -/
def Action.handles : Action → List NativeHandle
  | schedule _ h => h.toList
  | flush _ _ | proceed _ | setMainLoop _ _ => []

/-- The frees that were asked for, null pointers left out. -/
def scheduled (actions : List Action) : List NativeHandle :=
  actions.flatMap Action.handles

/-- The frees left in batches. -/
def left (σ : Deferral) : List NativeHandle :=
  σ.batches.flatMap Batch.left

/-- What a thread works on after it changed the world and kept its record. -/
theorem state_of_thread (σ : Deferral) {i : Nat} {s : State} {batches : List Batch}
    (kept : s.thread = σ.threads i)
    : { σ with world := s.world, batches }.state i = s := by
  rw [state, ← kept]

theorem act_proceed {σ : Deferral} {place : Nat} {b : Batch} (here : σ.batches[place]? = some b)
    (running : b.returned = false)
    : σ.act (.proceed place) = σ.resume place b := by
  simp only [act, here, running]
  rfl

/-- Away from the main loop a flush is reported, and over. -/
theorem act_flush_away {σ : Deferral} {i : Nat} (task : Bool)
    (away : (σ.threads i).onMainLoop = false)
    : σ.act (.flush i task)
      = (some (answer task 0), { σ with world := ((σ.state i).note .flushOffLoop).world }) := by
  simp only [act, away]
  rfl

/-- On the main loop a flush takes all that waits. -/
theorem act_flush {σ : Deferral} {i : Nat} (task : Bool) (main : (σ.threads i).onMainLoop = true)
    : σ.act (.flush i task)
      = (none,
          { σ with
            world := (σ.state i).takeQueue.2.world
            batches :=
              σ.batches
              ++ [{ thread := i, task, taken := σ.world.queue, left := σ.world.queue }] }) := by
  simp only [act, main]
  rfl

/-- A flush that nobody interrupts runs its frees in a row, by induction on what is left of its
batch.
-/
theorem run_proceed {σ : Deferral} {place : Nat} {b : Batch} (here : σ.batches[place]? = some b)
    (running : b.returned = false)
    : σ.run (List.replicate b.left.length (.proceed place))
      = { σ with
          world := ((σ.state b.thread).freeAll b.left).world
          batches := σ.batches.set place { b with freed := b.freed ++ b.left, left := [] } } := by
  obtain ⟨inside, there⟩ := List.getElem?_eq_some_iff.1 here
  generalize eq : b.left = left
  induction left generalizing σ b with
  | nil =>
      have same : { b with freed := b.freed ++ [], left := [] } = σ.batches[place] := by
        rw [List.append_nil, ← eq, there]
      rw [same, List.set_getElem_self]
      rfl
  | cons h left ih =>
      have stepped
          : σ.step (.proceed place)
            = { σ with
                world := ((σ.state b.thread).free h).world
                batches := σ.batches.set place { b with freed := b.freed ++ [h], left } } := by
        rw [step, act_proceed here running, resume, eq]
      have next
          : (σ.step (.proceed place)).batches[place]?
            = some { b with freed := b.freed ++ [h], left } := by
        rw [stepped]
        exact List.getElem?_set_self inside
      obtain ⟨insideNext, thereNext⟩ := List.getElem?_eq_some_iff.1 next
      show (σ.step (.proceed place)).run (List.replicate left.length (.proceed place)) = _
      rw [ih next running insideNext thereNext rfl, stepped, List.set_set, List.append_assoc,
        state_of_thread σ (State.Freeing.free _ h).thread]
      rfl

/-- Steps in a row that nobody interrupts do what a flush does at once, and answer what it answers.
-/
theorem flush_uninterrupted (σ : Deferral) (i : Nat) (task : Bool)
    (main : (σ.threads i).onMainLoop = true)
    : let τ := (σ.step (.flush i task)).run
        (List.replicate σ.world.queue.length (.proceed σ.batches.length))
      let last := τ.act (.proceed σ.batches.length)
      last.1
        = some (if task then .again (σ.state i).flushTask.1 else .count (σ.state i).flush.1)
      ∧ last.2.world = (σ.state i).flush.2.world := by
  have onLoop : (σ.state i).thread.onMainLoop = true := main
  obtain ⟨here, took⟩
      : (σ.step (.flush i task)).batches[σ.batches.length]?
          = some { thread := i, task, taken := σ.world.queue, left := σ.world.queue }
        ∧ (σ.step (.flush i task)).state i = (σ.state i).takeQueue.2 := by
    rw [step, act_flush task main]
    exact ⟨List.getElem?_concat_length, rfl⟩
  generalize σ.step (.flush i task) = τ at here took
  have inside := (List.getElem?_eq_some_iff.1 here).1
  have freed : ((τ.state i).freeAll σ.world.queue).thread = τ.threads i :=
    (State.freeing_freeAll _ _).thread
  have ran := run_proceed here rfl
  dsimp only at ran ⊢
  rw [ran, act_proceed (List.getElem?_set_self inside) rfl, resume]
  dsimp only
  rw [state_of_thread τ freed, took, State.flush, onLoop]
  exact ⟨rfl, rfl⟩

end Deferral

end Custody
