import Custody.Proofs.Deferral.Conservation

/-! The warning about a queue of frees that grows. The queue grows by one free at a time and is emptied as a
whole, so between two flushes on the main loop it comes to the length that was set at most once, and does
so exactly if as many frees are put into it.
-/

namespace Custody

/-- Whether an event warns of a growing queue. -/
def Event.isGrowth : Event → Bool
  | queueGrowing _ => true
  | _ => false

namespace World

/-- The warnings of a growing queue so far, oldest first. -/
def growthWarnings (w : World) : List Event :=
  w.log.filter Event.isGrowth

/-- From the first world to the second some frees joined the queue, one after the other, and the one that
brought it to the length that was set drew a warning.
-/
structure Grows (frees : List NativeHandle) (v w : World) : Prop where
  settings : w.settings = v.settings
  queue : w.queue = v.queue ++ frees
  warnings
    : w.growthWarnings
      = v.growthWarnings
        ++ if v.queue.length < v.settings.deferWarn
              ∧ v.settings.deferWarn ≤ v.queue.length + frees.length then
            [.queueGrowing v.settings.deferWarn]
          else []

namespace Grows

variable {u v w : World} {frees more : List NativeHandle}

/-- Where nothing joins the queue, no warning is drawn. -/
theorem of_same (settings : w.settings = v.settings) (queue : w.queue = v.queue)
    (warnings : w.growthWarnings = v.growthWarnings)
    : Grows [] v w where
  settings := settings
  queue := queue.trans (List.append_nil _).symm
  warnings := by
    have short : ¬ (v.queue.length < v.settings.deferWarn
        ∧ v.settings.deferWarn ≤ v.queue.length + ([] : List NativeHandle).length) := by
      rw [List.length_nil]
      omega
    rw [if_neg short, List.append_nil, warnings]

/-- The length that was set is passed in one of two parts, if at all. -/
theorem trans (first : Grows frees u v) (second : Grows more v w)
    : Grows (frees ++ more) u w where
  settings := second.settings.trans first.settings
  queue := by rw [second.queue, first.queue, List.append_assoc]
  warnings := by
    have between : v.queue.length = u.queue.length + frees.length := by
      rw [first.queue, List.length_append]
    rw [second.warnings, first.warnings, first.settings, between, List.length_append,
      List.append_assoc]
    congr 1
    by_cases early : u.settings.deferWarn ≤ u.queue.length + frees.length
    · have notLate : ¬ u.queue.length + frees.length < u.settings.deferWarn := Nat.not_lt.2 early
      have early' : u.settings.deferWarn ≤ u.queue.length + (frees.length + more.length) := by omega
      simp only [early, early', notLate, and_true, false_and, if_false, List.append_nil]
    · have late : u.queue.length + frees.length < u.settings.deferWarn := Nat.not_le.1 early
      have start : u.queue.length < u.settings.deferWarn := by omega
      simp only [early, late, start, and_false, true_and, if_false, List.nil_append, Nat.add_assoc]

end Grows

end World

namespace State

theorem growthWarnings_note (s : State) {e : Event} (other : e.isGrowth = false)
    : (s.note e).world.growthWarnings = s.world.growthWarnings := by
  have dropped : [e].filter Event.isGrowth = [] :=
    List.filter_cons_of_neg (Bool.not_eq_true _ ▸ other)
  show (s.world.log ++ [e]).filter Event.isGrowth = _
  rw [List.filter_append, dropped, List.append_nil]
  rfl

theorem grows_note (s : State) {e : Event} (other : e.isGrowth = false)
    : World.Grows [] s.world (s.note e).world :=
  .of_same rfl rfl (s.growthWarnings_note other)

/-- A free that runs draws no warning. -/
theorem grows_free (s : State) (h : NativeHandle)
    : World.Grows [] s.world (s.free h).world := by
  cases h <;> exact .of_same rfl rfl rfl

/-- A free that joins the queue draws the warning if it brings the queue to the length that was set. -/
theorem grows_enqueue (s : State) (h : NativeHandle)
    : World.Grows [h] s.world (s.enqueue h).world := by
  have longer : (s.world.queue ++ [h]).length = s.world.queue.length + 1 := List.length_append
  unfold enqueue
  dsimp only
  rw [longer]
  by_cases reached : s.world.queue.length + 1 = s.world.settings.deferWarn
  · rw [if_pos reached]
    refine ⟨rfl, rfl, ?_⟩
    have passed : s.world.queue.length < s.world.settings.deferWarn
        ∧ s.world.settings.deferWarn ≤ s.world.queue.length + [h].length := by
      rw [List.length_singleton]
      omega
    rw [if_pos passed, reached]
    exact List.filter_append s.world.log [Event.queueGrowing s.world.settings.deferWarn]
  · rw [if_neg reached]
    refine ⟨rfl, rfl, ?_⟩
    have passed : ¬ (s.world.queue.length < s.world.settings.deferWarn
        ∧ s.world.settings.deferWarn ≤ s.world.queue.length + [h].length) := by
      rw [List.length_singleton]
      omega
    rw [if_neg passed, List.append_nil]
    rfl

end State

namespace Deferral

variable {σ : Deferral}

/-- The action is a flush on the main loop. -/
def Flushes (σ : Deferral) : Action → Prop
  | .flush i _ => (σ.threads i).onMainLoop = true
  | .schedule .. | .proceed _ | .setMainLoop .. => False

/-- No action is a flush on the main loop, each in the state that it finds. -/
def Unflushed (σ : Deferral) : List Action → Prop
  | [] => True
  | a :: rest => ¬ σ.Flushes a ∧ (σ.step a).Unflushed rest

/-- There are no actions yet, or the last one is a flush on the main loop. -/
def Flushed (σ : Deferral) (actions : List Action) : Prop :=
  actions = [] ∨ ∃ earlier a, actions = earlier ++ [a] ∧ (σ.run earlier).Flushes a

/-- The action brings the queue to the length that was set. -/
def Brings (σ : Deferral) (a : Action) : Prop :=
  σ.world.queue.length ≠ σ.world.settings.deferWarn
  ∧ (σ.step a).world.queue.length = σ.world.settings.deferWarn

instance (σ : Deferral) (a : Action) : Decidable (σ.Brings a) :=
  inferInstanceAs (Decidable (_ ∧ _))

/-- The frees that an action puts into the queue. -/
def joins (σ : Deferral) : Action → List NativeHandle
  | .schedule i h => if (σ.state i).freesInline then [] else h.toList
  | .flush .. | .proceed _ | .setMainLoop .. => []

theorem length_joins_le (σ : Deferral) (a : Action)
    : (σ.joins a).length ≤ 1 := by
  cases a with
  | schedule i h =>
      rw [joins]
      split
      · exact Nat.zero_le 1
      · cases h with
        | none => exact Nat.zero_le 1
        | some h => exact Nat.le_refl 1
  | flush | proceed | setMainLoop => exact Nat.zero_le 1

-----------------------------------------------------------------------------------------
-- One step
-----------------------------------------------------------------------------------------

theorem grows_schedule (σ : Deferral) (i : Nat) (h : Option NativeHandle)
    : World.Grows (σ.joins (.schedule i h)) σ.world (σ.step (.schedule i h)).world := by
  show World.Grows _ (σ.state i).world ((σ.state i).schedulePointer h).world
  cases h with
  | none =>
      rw [joins, Option.toList_none, ite_self]
      exact .of_same rfl rfl rfl
  | some h =>
      show World.Grows _ _ ((σ.state i).schedule h).world
      rw [joins, State.schedule]
      split
      · exact State.grows_free _ h
      · exact State.grows_enqueue _ h

theorem grows_proceed (σ : Deferral) (place : Nat)
    : World.Grows [] σ.world (σ.step (.proceed place)).world := by
  rw [step]
  cases here : σ.batches[place]? with
  | none =>
      simp only [act, here]
      exact .of_same rfl rfl rfl
  | some b =>
      cases done : b.returned with
      | true =>
          simp only [act, here, done]
          exact .of_same rfl rfl rfl
      | false =>
          rw [act_proceed here done, resume]
          split
          · exact State.grows_free (σ.state b.thread) _
          · dsimp only
            split
            · exact .of_same rfl rfl rfl
            · exact State.grows_note (σ.state b.thread) rfl

/-- Until the next flush on the main loop the queue only grows; one case for each action. -/
theorem grows_step {a : Action} (stays : ¬ σ.Flushes a)
    : World.Grows (σ.joins a) σ.world (σ.step a).world := by
  cases a with
  | schedule i h => exact σ.grows_schedule i h
  | flush i task =>
      have away : (σ.threads i).onMainLoop = false := Bool.not_eq_true _ ▸ stays
      rw [step, act_flush_away task away]
      exact State.grows_note (σ.state i) rfl
  | proceed place => exact σ.grows_proceed place
  | setMainLoop => exact .of_same rfl rfl rfl

/-- A flush on the main loop empties the queue, and draws no warning. -/
theorem step_of_flushes {a : Action} (flushes : σ.Flushes a)
    : (σ.step a).world.queue = []
      ∧ (σ.step a).world.settings = σ.world.settings
      ∧ (σ.step a).world.growthWarnings = σ.world.growthWarnings := by
  cases a with
  | flush i task =>
      rw [step, act_flush task flushes]
      exact ⟨rfl, rfl, rfl⟩
  | schedule | proceed | setMainLoop => exact flushes.elim

theorem queued_step (σ : Deferral) (a : Action)
    : (σ.step a).queued = σ.queued ++ σ.joins a := by
  cases a with
  | schedule i h =>
      show (if (σ.state i).freesInline then σ.queued else σ.queued ++ h.toList) = _
      rw [joins]
      split
      · exact (List.append_nil _).symm
      · rfl
  | flush i task =>
      rw [step, joins, List.append_nil]
      cases main : (σ.threads i).onMainLoop with
      | false => rw [act_flush_away task main]
      | true => rw [act_flush task main]
  | proceed place =>
      rw [step, joins, List.append_nil]
      unfold act
      dsimp only
      split
      · rfl
      · split
        · rfl
        · unfold resume
          split <;> rfl
  | setMainLoop => exact (List.append_nil _).symm

theorem settings_step (σ : Deferral) (a : Action)
    : (σ.step a).world.settings = σ.world.settings := by
  by_cases flushes : σ.Flushes a
  · exact (step_of_flushes flushes).2.1
  · exact (grows_step flushes).settings

/-- The warning comes with the action that brings the queue to the length that was set, and with no other;
that action puts a free into the queue.
-/
theorem warnings_step (positive : 0 < σ.world.settings.deferWarn) (a : Action)
    : (σ.step a).world.growthWarnings
        = σ.world.growthWarnings
          ++ (if σ.Brings a then [.queueGrowing σ.world.settings.deferWarn] else [])
      ∧ (σ.Brings a → ∃ i h, a = .schedule i (some h)) := by
  by_cases flushes : σ.Flushes a
  · obtain ⟨queue, -, warnings⟩ := step_of_flushes flushes
    have short : ¬ σ.Brings a := by
      rintro ⟨-, reached⟩
      rw [queue, List.length_nil] at reached
      omega
    refine ⟨?_, fun brings => absurd brings short⟩
    rw [if_neg short, List.append_nil, warnings]
  · have grows := grows_step flushes
    have single := σ.length_joins_le a
    have brings
        : σ.Brings a
          ↔ σ.world.queue.length < σ.world.settings.deferWarn
            ∧ σ.world.settings.deferWarn ≤ σ.world.queue.length + (σ.joins a).length := by
      rw [Brings, grows.queue, List.length_append]
      omega
    refine ⟨?_, fun reached => ?_⟩
    · rw [grows.warnings]
      simp only [brings]
    · obtain ⟨before, after⟩ := brings.1 reached
      cases a with
      | schedule i h =>
          cases h with
          | some h => exact ⟨i, h, rfl⟩
          | none =>
              rw [joins, Option.toList_none, ite_self, List.length_nil] at after
              omega
      | flush | proceed | setMainLoop =>
          rw [joins, List.length_nil] at after
          omega

-----------------------------------------------------------------------------------------
-- Whole runs
-----------------------------------------------------------------------------------------

/-- By induction on the actions. -/
theorem settings_run (σ : Deferral) (actions : List Action)
    : (σ.run actions).world.settings = σ.world.settings := by
  induction actions generalizing σ with
  | nil => rfl
  | cons a rest ih => exact (ih (σ.step a)).trans (σ.settings_step a)

/-- Until the next flush on the main loop the queue only grows, by induction on the actions. -/
theorem grows_run {actions : List Action} (stays : σ.Unflushed actions)
    : ∃ frees,
        (σ.run actions).queued = σ.queued ++ frees
        ∧ World.Grows frees σ.world (σ.run actions).world := by
  induction actions generalizing σ with
  | nil => exact ⟨[], (List.append_nil _).symm, .of_same rfl rfl rfl⟩
  | cons a rest ih =>
      obtain ⟨frees, queued, grows⟩ := ih stays.2
      refine ⟨σ.joins a ++ frees, ?_, (grows_step stays.1).trans grows⟩
      show ((σ.step a).run rest).queued = _
      rw [queued, queued_step, List.append_assoc]

/-- At the start, and after a flush on the main loop, the queue is empty. -/
theorem queue_of_flushed {world : World} {threads : Nat → Thread} {actions : List Action}
    (flushed : (start world threads).Flushed actions)
    : ((start world threads).run actions).world.queue = [] := by
  rcases flushed with rfl | ⟨earlier, a, rfl, flushes⟩
  · rfl
  · rw [run, List.foldl_append]
    exact (step_of_flushes flushes).1

/-- Whatever was done before, the warning of a growing queue comes with exactly those frees that bring the
queue to the length that was set. So in a stretch from the start, or from a flush on the main loop, until
the next such flush there is one warning if at least so many frees joined the queue, and else there is
none; frees that run at once and flushes away from the main loop make no difference.
-/
theorem growth_warned_once (world : World) (threads : Nat → Thread)
    (positive : 0 < world.settings.deferWarn) (actions : List Action)
    : let σ := (start world threads).run actions
      let warning := Event.queueGrowing world.settings.deferWarn
      (∀ a,
        (σ.step a).world.growthWarnings
          = σ.world.growthWarnings ++ (if σ.Brings a then [warning] else [])
        ∧ (σ.Brings a → ∃ i h, a = .schedule i (some h)))
      ∧ ∀ stretch,
          (start world threads).Flushed actions
          → σ.Unflushed stretch
          → ∃ frees,
              (σ.run stretch).queued = σ.queued ++ frees
              ∧ (σ.run stretch).world.growthWarnings
                = σ.world.growthWarnings
                  ++ if world.settings.deferWarn ≤ frees.length then [warning] else [] := by
  have settings : ((start world threads).run actions).world.settings = world.settings :=
    (start world threads).settings_run actions
  refine ⟨fun a => ?_, fun stretch flushed stays => ?_⟩
  · have step := warnings_step (settings ▸ positive) a
    rwa [settings] at step
  · obtain ⟨frees, queued, grows⟩ := grows_run stays
    refine ⟨frees, queued, ?_⟩
    rw [grows.warnings, queue_of_flushed flushed, settings]
    simp only [List.length_nil, Nat.zero_add, positive, true_and]

/-- Two frees wait where two draw the warning, another one runs at once, and an ignored flush comes
between them.
-/
def crowding : List Action :=
  [.setMainLoop 1 false, .schedule 1 (some (.buffer ⟨0⟩)), .flush 1 false,
    .schedule 0 (some (.buffer ⟨1⟩)), .schedule 1 (some (.buffer ⟨2⟩))]

/-- A world in which two waiting frees draw the warning. -/
def crowdedWorld : World :=
  { settings := { deferWarn := 2 }, buffers := ⟨[{}, {}, {}]⟩ }

theorem crowding_warned_once
    : 0 < crowdedWorld.settings.deferWarn
      ∧ (start crowdedWorld fun _ => {}).Unflushed crowding
      ∧ ∃ frees,
          ((start crowdedWorld fun _ => {}).run crowding).queued = frees
          ∧ frees.length = 2
          ∧ ((start crowdedWorld fun _ => {}).run crowding).world.growthWarnings
            = [.queueGrowing 2] := by
  have stays : (start crowdedWorld fun _ => {}).Unflushed crowding :=
    ⟨id, id, Bool.noConfusion, id, id, trivial⟩
  obtain ⟨-, stretches⟩ := growth_warned_once crowdedWorld (fun _ => {}) (by decide) []
  obtain ⟨frees, queued, warned⟩ := stretches crowding (.inl rfl) stays
  have two : frees.length = 2 := (congrArg List.length queued).symm
  refine ⟨by decide, stays, frees, queued, two, ?_⟩
  rw [two] at warned
  exact warned

end Deferral

end Custody
