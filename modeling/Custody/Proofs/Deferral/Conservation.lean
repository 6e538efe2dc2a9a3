import Custody.Proofs.Deferral.Batches

/-! Nothing is lost and nothing doubled on the way through the queue, whatever comes between the
steps of a flush.
-/

namespace Custody

-----------------------------------------------------------------------------------------
-- Lists of batches
-----------------------------------------------------------------------------------------

/-- A batch that is replaced by one that took the same leaves what all took. -/
theorem flatMap_taken_set {batches : List Batch} {place : Nat} {b c : Batch}
    (here : batches[place]? = some b) (same : c.taken = b.taken)
    : (batches.set place c).flatMap Batch.taken = batches.flatMap Batch.taken := by
  induction batches generalizing place with
  | nil => simp at here
  | cons head rest ih =>
      cases place with
      | zero =>
          obtain rfl : head = b := by simpa using here
          simp [same]
      | succ place =>
          rw [List.set_cons_succ, List.flatMap_cons, List.flatMap_cons,
            @ih place (by simpa using here)]

/-- What is left in all batches, when one of them is replaced. -/
theorem count_left_set {batches : List Batch} {place : Nat} {b : Batch} (c : Batch)
    (here : batches[place]? = some b) (h : NativeHandle)
    : ((batches.set place c).flatMap Batch.left).count h + b.left.count h
      = (batches.flatMap Batch.left).count h + c.left.count h := by
  induction batches generalizing place with
  | nil => simp at here
  | cons head rest ih =>
      cases place with
      | zero =>
          obtain rfl : head = b := by simpa using here
          simp only [List.set_cons_zero, List.flatMap_cons, List.count_append]
          omega
      | succ place =>
          have inner := @ih place (by simpa using here)
          simp only [List.set_cons_succ, List.flatMap_cons, List.count_append]
          omega

-----------------------------------------------------------------------------------------
-- One step
-----------------------------------------------------------------------------------------

/-- A free that is scheduled runs at once or waits at the end of the queue. -/
theorem State.queue_schedulePointer (s : State) (h : Option NativeHandle)
    : (s.schedulePointer h).world.queue
      = if s.freesInline then s.world.queue else s.world.queue ++ h.toList := by
  cases h with
  | none => simp [schedulePointer]
  | some h =>
      show (s.schedule h).world.queue = _
      unfold schedule
      split
      · exact queue_free s h
      · unfold enqueue
        dsimp only
        split <;> rfl

namespace Deferral

/-- What holds of the queue and the batches once some frees were scheduled: none of them is lost or
doubled, the batches are the queue as it was, in order, and each runs in its order.
-/
structure Balanced (world : World) (asked : List NativeHandle) (σ : Deferral) : Prop where
  counts
    : ∀ h,
        world.freed h + asked.count h
        = σ.world.freed h + σ.world.queued h + σ.left.count h
  queued : σ.queued = σ.batches.flatMap Batch.taken ++ σ.world.queue
  batches : ∀ b ∈ σ.batches, b.freed ++ b.left = b.taken

variable {world : World} {asked : List NativeHandle} {σ : Deferral}

theorem balanced_start (world : World) (threads : Nat → Thread)
    : (start world threads).Balanced world [] := by
  refine ⟨fun h => ?_, rfl, fun b none => by cases none⟩
  cases h <;> rfl

theorem Balanced.schedule (balanced : σ.Balanced world asked) (i : Nat) (h : Option NativeHandle)
    : (σ.step (.schedule i h)).Balanced world (asked ++ h.toList) := by
  have waits := (σ.state i).queue_schedulePointer h
  refine ⟨fun g => ?_, ?_, balanced.batches⟩
  · have counts := balanced.counts g
    have spent := (State.pays_schedulePointer (σ.state i) h).spent g
    have once : h.toList.count g = bill h g := by
      cases h with
      | none => rfl
      | some h => exact count_singleton h g
    rw [List.count_append, once]
    simp only [World.spent] at spent
    show _ = ((σ.state i).schedulePointer h).world.freed g
      + ((σ.state i).schedulePointer h).world.queued g + σ.left.count g
    show world.freed g + (asked.count g + bill h g) = _
    have same : (σ.state i).world = σ.world := rfl
    rw [same] at spent
    omega
  · show (if (σ.state i).freesInline then σ.queued else σ.queued ++ h.toList)
      = σ.batches.flatMap Batch.taken ++ ((σ.state i).schedulePointer h).world.queue
    rw [waits, balanced.queued]
    split
    · rfl
    · rw [List.append_assoc]
      rfl

theorem Balanced.flush (balanced : σ.Balanced world asked) (i : Nat) (task : Bool)
    : (σ.step (.flush i task)).Balanced world asked := by
  rw [step]
  cases main : (σ.threads i).onMainLoop with
  | false =>
      rw [act_flush_away task main]
      refine ⟨fun h => ?_, balanced.queued, balanced.batches⟩
      rw [balanced.counts h]
      cases h <;> rfl
  | true =>
      rw [act_flush task main]
      generalize new
        : ({ thread := i, task, taken := σ.world.queue, left := σ.world.queue } : Batch) = b
      obtain ⟨taken, freed, left⟩
          : b.taken = σ.world.queue ∧ b.freed = [] ∧ b.left = σ.world.queue := by
        subst b
        exact ⟨rfl, rfl, rfl⟩
      refine ⟨fun h => ?_, ?_, fun c member => ?_⟩
      · -- what waited is now left in the new batch
        have moved : (σ.batches ++ [b]).flatMap Batch.left = σ.left ++ σ.world.queue := by
          rw [List.flatMap_append, List.flatMap_singleton, left]
          rfl
        have freed : (σ.state i).takeQueue.2.world.freed h = σ.world.freed h := by cases h <;> rfl
        show _ = (σ.state i).takeQueue.2.world.freed h + 0
          + ((σ.batches ++ [b]).flatMap Batch.left).count h
        rw [balanced.counts h, freed, moved, List.count_append, World.queued]
        omega
      · show σ.queued = (σ.batches ++ [b]).flatMap Batch.taken ++ []
        rw [balanced.queued, List.flatMap_append, List.flatMap_singleton, taken, List.append_nil]
      · rcases List.mem_append.1 member with old | new
        · exact balanced.batches c old
        · obtain rfl := List.mem_singleton.1 new
          rw [freed, left, taken]
          rfl

/-- A batch goes on: what it frees is no longer left in it. -/
theorem Balanced.replace (balanced : σ.Balanced world asked) {place : Nat} {b c : Batch} {s : State}
    (here : σ.batches[place]? = some b) (taken : c.taken = b.taken)
    (whole : c.freed ++ c.left = b.taken) (queue : s.world.queue = σ.world.queue)
    (freed : ∀ h, s.world.freed h + c.left.count h = σ.world.freed h + b.left.count h)
    : Balanced world asked { σ with world := s.world, batches := σ.batches.set place c } := by
  refine ⟨fun h => ?_, ?_, fun d member => ?_⟩
  · have counts := balanced.counts h
    have moved := count_left_set c here h
    have run := freed h
    show _ = s.world.freed h + s.world.queue.count h
      + ((σ.batches.set place c).flatMap Batch.left).count h
    rw [queue]
    simp only [World.queued, left] at counts
    omega
  · show σ.queued = (σ.batches.set place c).flatMap Batch.taken ++ s.world.queue
    rw [flatMap_taken_set here taken, queue]
    exact balanced.queued
  · rcases List.mem_or_eq_of_mem_set member with old | rfl
    · exact balanced.batches d old
    · rw [whole, taken]

theorem Balanced.proceed (balanced : σ.Balanced world asked) (place : Nat)
    : (σ.step (.proceed place)).Balanced world asked := by
  rw [step]
  cases here : σ.batches[place]? with
  | none =>
      simp only [act, here]
      exact balanced
  | some b =>
      have whole := balanced.batches b (List.mem_of_getElem? here)
      cases done : b.returned with
      | true =>
          simp only [act, here, done]
          exact balanced
      | false =>
          rw [act_proceed here done, resume]
          split
          · next h rest eq =>
              refine balanced.replace here rfl ?_ ((σ.state b.thread).queue_free h) fun g => ?_
              · rw [← whole, eq, List.append_assoc]
                rfl
              · have free := (σ.state b.thread).freed_free h g
                have once := count_singleton h g
                have head : (h :: rest).count g = [h].count g + rest.count g := by
                  rw [← List.count_append, List.singleton_append]
                rw [free, eq, head, once]
                exact Nat.add_assoc _ _ _
          · next eq =>
              refine balanced.replace here rfl whole ?_ fun g => ?_
              · split <;> rfl
              · split <;> cases g <;> rfl

theorem Balanced.step (balanced : σ.Balanced world asked) (a : Action)
    : (σ.step a).Balanced world (asked ++ a.handles) := by
  cases a with
  | schedule i h => exact balanced.schedule i h
  | flush i task =>
      rw [Action.handles, List.append_nil]
      exact balanced.flush i task
  | proceed place =>
      rw [Action.handles, List.append_nil]
      exact balanced.proceed place
  | setMainLoop i on =>
      rw [Action.handles, List.append_nil]
      exact ⟨balanced.counts, balanced.queued, balanced.batches⟩

/-- A step keeps what the flushes took. -/
theorem taken_step (a : Action) {place : Nat} {b : Batch} (here : σ.batches[place]? = some b)
    : ∃ c, (σ.step a).batches[place]? = some c ∧ c.task = b.task ∧ c.taken = b.taken := by
  have inside := (List.getElem?_eq_some_iff.1 here).1
  rw [step]
  cases a with
  | schedule i h => exact ⟨b, here, rfl, rfl⟩
  | setMainLoop i on => exact ⟨b, here, rfl, rfl⟩
  | flush i task =>
      cases main : (σ.threads i).onMainLoop with
      | false =>
          rw [act_flush_away task main]
          exact ⟨b, here, rfl, rfl⟩
      | true =>
          rw [act_flush task main]
          exact ⟨b, (List.getElem?_append_left inside).trans here, rfl, rfl⟩
  | proceed at_ =>
      have replaced (c d : Batch) (there : σ.batches[at_]? = some c) (task : d.task = c.task)
          (taken : d.taken = c.taken)
          : ∃ e,
              (σ.batches.set at_ d)[place]? = some e
              ∧ e.task = b.task
              ∧ e.taken = b.taken := by
        by_cases same : at_ = place
        · subst same
          obtain rfl : b = c := Option.some.inj (here.symm.trans there)
          exact ⟨d, List.getElem?_set_self inside, task, taken⟩
        · exact ⟨b, (List.getElem?_set_ne same).trans here, rfl, rfl⟩
      cases there : σ.batches[at_]? with
      | none =>
          simp only [act, there]
          exact ⟨b, here, rfl, rfl⟩
      | some c =>
          cases done : c.returned with
          | true =>
              simp only [act, there, done]
              exact ⟨b, here, rfl, rfl⟩
          | false =>
              rw [act_proceed there done, resume]
              split
              · exact replaced c _ there rfl rfl
              · exact replaced c _ there rfl rfl

/-- A scheduled free runs at once, or waits last. -/
theorem step_schedule (σ : Deferral) (i : Nat) (h : NativeHandle)
    : let τ := σ.step (.schedule i (some h))
      if σ.world.settings.deferAll = false ∧ (σ.threads i).onMainLoop = true then
        τ.world.freed h = σ.world.freed h + 1 ∧ τ.world.queue = σ.world.queue
      else
        (∀ g, τ.world.freed g = σ.world.freed g) ∧ τ.world.queue = σ.world.queue ++ [h] := by
  have inline
      : (σ.state i).freesInline = true
        ↔ σ.world.settings.deferAll = false ∧ (σ.threads i).onMainLoop = true := by
    simp [State.freesInline, state]
  have queue : ((σ.state i).schedule h).world.queue = _ :=
    (σ.state i).queue_schedulePointer (some h)
  show if _ then
      ((σ.state i).schedule h).world.freed h = _ ∧ ((σ.state i).schedule h).world.queue = _
    else
      (∀ g, ((σ.state i).schedule h).world.freed g = _)
        ∧ ((σ.state i).schedule h).world.queue = _
  split
  · next now =>
      rw [queue, State.schedule, if_pos (inline.2 now), if_pos (inline.2 now), State.freed_free,
        bill_self]
      exact ⟨rfl, rfl⟩
  · next later =>
      have waits : ¬ (σ.state i).freesInline = true := fun now => later (inline.1 now)
      rw [queue, State.schedule, if_neg waits, if_neg waits]
      refine ⟨fun g => ?_, rfl⟩
      unfold State.enqueue
      dsimp only
      split <;> cases g <;> rfl

-----------------------------------------------------------------------------------------
-- Whole runs
-----------------------------------------------------------------------------------------

/-- By induction on the actions. -/
theorem Balanced.run (balanced : σ.Balanced world asked) (actions : List Action)
    : (σ.run actions).Balanced world (asked ++ scheduled actions) := by
  induction actions generalizing σ asked with
  | nil =>
      rw [scheduled, List.flatMap_nil, List.append_nil]
      exact balanced
  | cons a rest ih =>
      have more := ih (balanced.step a)
      rw [List.append_assoc] at more
      exact more

/-- A flush keeps its thread and what it took, whatever happens; by induction on the actions. -/
theorem taken_run (actions : List Action) {place : Nat} {b : Batch}
    (here : σ.batches[place]? = some b)
    : ∃ c,
        (σ.run actions).batches[place]? = some c
        ∧ c.task = b.task
        ∧ c.taken = b.taken := by
  induction actions generalizing σ b with
  | nil => exact ⟨b, here, rfl, rfl⟩
  | cons a rest ih =>
      obtain ⟨c, there, task, taken⟩ := taken_step a here
      obtain ⟨d, last, sameTask, same⟩ := ih there
      exact ⟨d, last, sameTask.trans task, same.trans taken⟩

/-- The answer of a flush comes when all its frees ran, and is the number that it took. -/
theorem answer_proceed (σ : Deferral) {i : Nat} (task : Bool) (more : List Action)
    (main : (σ.threads i).onMainLoop = true)
    : ∃ b,
        ((σ.step (.flush i task)).run more).batches[σ.batches.length]? = some b
        ∧ b.taken = σ.world.queue
        ∧ (((σ.step (.flush i task)).run more).act (.proceed σ.batches.length)).1
          = if b.left = [] ∧ b.returned = false then some (answer task σ.world.queue.length)
            else none := by
  have new
      : (σ.step (.flush i task)).batches[σ.batches.length]?
        = some { thread := i, task, taken := σ.world.queue, left := σ.world.queue } := by
    rw [step, act_flush task main]
    exact List.getElem?_concat_length
  obtain ⟨b, there, sameTask, same⟩ := taken_run more new
  refine ⟨b, there, same, ?_⟩
  cases done : b.returned with
  | true => simp [act, there, done]
  | false =>
      rw [act_proceed there done, resume]
      split
      · next eq => simp [eq]
      · next eq => simp [eq, sameTask, same]

/-- At any time the frees asked for are those that ran, those that wait and those left in batches;
the batches are what was queued, in order, and each runs in its order. Away from the main loop a
flush only answers, with zero; on it the answer is how many waited when it took them, and comes once
they all ran. A free runs at once exactly on the main loop with nothing to the contrary in the
settings, and waits last in the queue otherwise.
-/
theorem frees_conserved (world : World) (threads : Nat → Thread) (actions : List Action)
    : let σ := (start world threads).run actions
      (∀ h,
        world.freed h + (scheduled actions).count h
        = σ.world.freed h + σ.world.queue.count h + σ.left.count h)
      ∧ (σ.queued = σ.batches.flatMap Batch.taken ++ σ.world.queue
        ∧ ∀ b ∈ σ.batches, b.freed ++ b.left = b.taken)
      ∧ (∀ i task,
          (σ.threads i).onMainLoop = false
          → σ.act (.flush i task)
            = (some (answer task 0),
                { σ with world := ((σ.state i).note .flushOffLoop).world }))
      ∧ (∀ i task more,
          (σ.threads i).onMainLoop = true
          → let τ := (σ.step (.flush i task)).run more
            ∃ b,
              τ.batches[σ.batches.length]? = some b
              ∧ b.taken = σ.world.queue
              ∧ (τ.act (.proceed σ.batches.length)).1
                = if b.left = [] ∧ b.returned = false then some (answer task σ.world.queue.length)
                  else none)
      ∧ (∀ i h,
          let τ := σ.step (.schedule i (some h))
          if σ.world.settings.deferAll = false ∧ (σ.threads i).onMainLoop = true then
            τ.world.freed h = σ.world.freed h + 1 ∧ τ.world.queue = σ.world.queue
          else
            (∀ g, τ.world.freed g = σ.world.freed g) ∧ τ.world.queue = σ.world.queue ++ [h]) := by
  have balanced := (balanced_start world threads).run actions
  rw [List.nil_append] at balanced
  dsimp only
  generalize (start world threads).run actions = σ at balanced
  refine ⟨balanced.counts, ⟨balanced.queued, balanced.batches⟩, ?_, ?_, ?_⟩
  · intro i task away
    exact act_flush_away task away
  · intro i task more main
    exact σ.answer_proceed task more main
  · intro i h
    exact σ.step_schedule i h

/-- A free waits, is taken by a flush, and before it runs another thread puts a second free in the
queue and the main loop runs a third one at once.
-/
def overtaken : List Action :=
  [.setMainLoop 1 false, .schedule 1 (some (.buffer ⟨0⟩)), .flush 0 false,
    .schedule 1 (some (.buffer ⟨1⟩)), .schedule 0 (some (.buffer ⟨2⟩)), .proceed 0]

theorem overtaken_frees_conserved
    : let σ := (start { buffers := ⟨[{}, {}, {}]⟩ } fun _ => {}).run overtaken
      (∀ h,
        World.freed { buffers := ⟨[{}, {}, {}]⟩ } h + (scheduled overtaken).count h
        = σ.world.freed h + σ.world.queue.count h + σ.left.count h)
      ∧ σ.world.freed (.buffer ⟨0⟩) = 1
      ∧ σ.world.freed (.buffer ⟨2⟩) = 1
      ∧ σ.world.queue = [.buffer ⟨1⟩]
      ∧ (σ.act (.proceed 0)).1 = some (.count 1) := by
  obtain ⟨counts, _⟩ := frees_conserved { buffers := ⟨[{}, {}, {}]⟩ } (fun _ => {}) overtaken
  exact ⟨counts, rfl, rfl, rfl, rfl⟩

end Deferral

end Custody
