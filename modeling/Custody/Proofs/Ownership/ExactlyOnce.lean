import Custody.Proofs.Ownership.System

/-! Every object is freed at most once, and once if it is owned to the end: at any time at most one
free of it was run, waits, or is owned by a wrapper, and what a wrapper owns is lost only where it is
given up on purpose.
-/

namespace Custody

-----------------------------------------------------------------------------------------
-- What wrappers owe
-----------------------------------------------------------------------------------------

namespace Wrapper

theorem owed_eq (w : Wrapper)
    : w.owed = if w.own then w.target else none := by
  cases w <;> rfl

theorem target_of_owed {w : Wrapper} {h : NativeHandle} (owes : w.owed = some h)
    : w.own = true ∧ w.target = some h := by
  rw [owed_eq] at owes
  split at owes
  · next own => exact ⟨own, owes⟩
  · cases owes

theorem owed_setOwn (w : Wrapper) (own : Bool)
    : (w.setOwn own).owed = if own then w.target else none := by
  cases w <;> cases own <;> rfl

theorem owed_release (w : Wrapper)
    : w.release.owed = none := by
  rw [owed_eq]
  cases w <;> exact ite_self none

theorem owed_dispose (w : Wrapper) (s : State)
    : (w.dispose s).1.owed = none := by
  rw [owed_eq]
  cases w <;> exact ite_self none

theorem pays_dispose (w : Wrapper) (s : State)
    : State.Pays w.owed s (w.dispose s).2 := by
  cases w with
  | buffer b => exact Handle.pays_dispose b s
  | cursor k c => exact Handle.pays_dispose c.handle s
  | token h => exact Handle.pays_dispose h s

theorem pays_drop (w : Wrapper) (s : State)
    : State.Pays w.owed s (w.drop s) := by
  cases w with
  | buffer b => exact Handle.pays_drop b s
  | cursor k c => exact Handle.pays_drop c.handle s
  | token h => exact Handle.pays_drop h s

end Wrapper

theorem CursorUse.handle_run {k : ElementKind} (u : CursorUse) (c : Cursor k) (s : State)
    : (u.run c s).1.handle = c.handle := by
  cases u with
  | take n => exact Cursor.handle_take n c s
  | lock | unlock | container => rfl

-----------------------------------------------------------------------------------------
-- One operation
-----------------------------------------------------------------------------------------

namespace System

/-- The second system is the first after one wrapper came to own an object, one free was spent and
one wrapper stopped owning an object, each if named.
-/
structure Settles (σ τ : System) (opened paid closed : Option NativeHandle) : Prop where
  spent : ∀ h, τ.world.spent h = σ.world.spent h + bill paid h
  owners : ∀ h, τ.owners h + bill closed h = σ.owners h + bill opened h
  has : ∀ h, σ.world.Has h → τ.world.Has h

/-- All that an operation can do to the claims on objects. -/
inductive Outcome (σ : System) (op : Operation) (τ : System) : Prop
  | kept (settles : σ.Settles τ none none none)
  | claimed (h : NativeHandle) (free : σ.claims h = 0) (has : τ.world.Has h)
      (settles : σ.Settles τ (some h) none none)
  | ended (h : NativeHandle) (ends : σ.Ends op h) (settles : σ.Settles τ none (some h) (some h))
  | undone (h : NativeHandle) (free : σ.claims h = 0) (has : τ.world.Has h)
      (settles : σ.Settles τ none (some h) none)
  | gaveUp (h : NativeHandle) (gives : σ.GivesUp op h) (settles : σ.Settles τ none none (some h))

/-- Nothing claims what is not there. -/
def Grounded (σ : System) : Prop :=
  ∀ h, ¬ σ.world.Has h → σ.claims h = 0

variable {σ τ : System} {op : Operation} {thread : Nat} {h : NativeHandle}

theorem claims_eq (σ : System) (h : NativeHandle)
    : σ.claims h = σ.world.spent h + σ.owners h := by
  unfold claims World.spent
  omega

theorem countP_cons_wrapper (w : Wrapper) (ws : List Wrapper) (h : NativeHandle)
    : (w :: ws).countP (fun v => v.owed = some h)
      = ws.countP (fun v => v.owed = some h) + bill w.owed h := by
  rw [List.countP_cons]
  simp only [bill, decide_eq_true_eq]

theorem countP_append_wrapper (ws : List Wrapper) (w : Wrapper) (h : NativeHandle)
    : (ws ++ [w]).countP (fun v => v.owed = some h)
      = ws.countP (fun v => v.owed = some h) + bill w.owed h := by
  rw [List.countP_append, List.countP_singleton]
  simp only [bill, decide_eq_true_eq]

/-- What is left of a wrapper owes in its place, by induction on the place. -/
theorem countP_keepLeft {ws : List Wrapper} {place : Nat} {w : Wrapper} (there : ws[place]? = some w)
    (left : Option Wrapper × State) (h : NativeHandle)
    : (keepLeft ws place left).1.countP (fun v => v.owed = some h) + bill w.owed h
      = ws.countP (fun v => v.owed = some h) + bill (left.1.bind Wrapper.owed) h := by
  obtain ⟨left, s⟩ := left
  induction place generalizing ws with
  | zero =>
      cases ws with
      | nil => simp at there
      | cons v rest =>
          obtain rfl : v = w := by simpa using there
          rw [countP_cons_wrapper v rest]
          cases left with
          | none => rfl
          | some u =>
              show (u :: rest).countP _ + _ = _
              rw [countP_cons_wrapper u rest]
              exact Nat.add_right_comm _ _ _
  | succ place ih =>
      cases ws with
      | nil => simp at there
      | cons v rest =>
          have inner := @ih rest (by simpa using there)
          have outer : (keepLeft (v :: rest) (place + 1) (left, s)).1
              = v :: (keepLeft rest place (left, s)).1 := by
            cases left <;> rfl
          rw [outer, countP_cons_wrapper, countP_cons_wrapper]
          omega

theorem settles_after {ran : List Wrapper × State} {opened paid closed : Option NativeHandle}
    (pays : State.Pays paid (σ.state thread) ran.2)
    (owners
      : ∀ h,
          ran.1.countP (fun w => w.owed = some h) + bill closed h
          = σ.wrappers.countP (fun w => w.owed = some h) + bill opened h)
    : σ.Settles (σ.after thread ran) opened paid closed where
  spent := pays.spent
  owners := owners
  has := pays.has

/-- An operation that keeps the wrappers and spends nothing. -/
theorem outcome_spared {s : State} (pays : State.Pays none (σ.state thread) s)
    : σ.Outcome op (σ.after thread (σ.wrappers, s)) :=
  .kept (settles_after pays fun _ => rfl)

theorem outcome_keepBuffer {made : Attempt BufferError Buffer} (grounded : σ.Grounded)
    (built : (σ.state thread).Built made)
    : σ.Outcome op (σ.after thread (keepBuffer σ.wrappers made)) := by
  cases built with
  | made r t new has pays =>
      refine .claimed (.buffer r) (grounded _ new) has (settles_after pays fun h => ?_)
      exact countP_append_wrapper σ.wrappers _ h
  | refused e t pays => exact outcome_spared pays
  | undone e r t new has pays =>
      exact .undone (.buffer r) (grounded _ new) has (settles_after pays fun _ => rfl)

theorem outcome_adopt (w : Wrapper) (free : ∀ h, w.owed = some h → σ.Unclaimed h)
    : σ.Outcome op (σ.after thread (σ.wrappers ++ [w], σ.state thread)) := by
  have counts := countP_append_wrapper σ.wrappers w
  cases owes : w.owed with
  | none =>
      refine .kept (settles_after (.refl _) fun h => ?_)
      rw [counts h, owes]
      rfl
  | some g =>
      obtain ⟨has, unclaimed⟩ := free g owes
      refine .claimed g unclaimed has (settles_after (.refl _) fun h => ?_)
      rw [counts h, owes]
      rfl

section

variable {place : Nat} {w : Wrapper} {left : Option Wrapper × State}

theorem settles_keepLeft {opened paid closed : Option NativeHandle}
    (there : σ.wrappers[place]? = some w) (pays : State.Pays paid (σ.state thread) left.2)
    (owes
      : ∀ h,
          bill (left.1.bind Wrapper.owed) h + bill closed h = bill w.owed h + bill opened h)
    : σ.Settles (σ.after thread (keepLeft σ.wrappers place left)) opened paid closed := by
  have kept : (keepLeft σ.wrappers place left).2 = left.2 := by
    obtain ⟨left, s⟩ := left
    cases left <;> rfl
  refine settles_after (kept ▸ pays) fun h => ?_
  have count := countP_keepLeft there left h
  have owe := owes h
  omega

/-- An act that spends nothing and after which the wrapper owes what it owed. -/
theorem outcome_same (there : σ.wrappers[place]? = some w)
    (pays : State.Pays none (σ.state thread) left.2) (same : left.1.bind Wrapper.owed = w.owed)
    : σ.Outcome op (σ.after thread (keepLeft σ.wrappers place left)) :=
  .kept (settles_keepLeft there pays fun h => by rw [same])

/-- An act that spends what the wrapper owed and leaves nothing of it. -/
theorem outcome_ended (there : σ.wrappers[place]? = some w)
    (pays : State.Pays w.owed (σ.state thread) left.2) (none : left.1.bind Wrapper.owed = none)
    (ends : ∀ h, w.owed = some h → σ.Ends op h)
    : σ.Outcome op (σ.after thread (keepLeft σ.wrappers place left)) := by
  cases owes : w.owed with
  | none =>
      rw [owes] at pays
      exact outcome_same there pays (none.trans owes.symm)
  | some g =>
      rw [owes] at pays
      refine .ended g (ends g owes) (settles_keepLeft there pays fun h => ?_)
      rw [none, owes]
      exact Nat.add_comm _ _

/-- An act that spends nothing, and after which the wrapper owes nothing. -/
theorem outcome_gaveUp (there : σ.wrappers[place]? = some w)
    (pays : State.Pays none (σ.state thread) left.2) (none : left.1.bind Wrapper.owed = none)
    (gives : ∀ h, w.owed = some h → σ.GivesUp op h)
    : σ.Outcome op (σ.after thread (keepLeft σ.wrappers place left)) := by
  cases owes : w.owed with
  | none => exact outcome_same there pays (none.trans owes.symm)
  | some g =>
      refine .gaveUp g (gives g owes) (settles_keepLeft there pays fun h => ?_)
      rw [none, owes]
      exact Nat.add_comm _ _

/-- Setting the flag makes an owner only where there was none. -/
theorem outcome_setOwn (there : σ.wrappers[place]? = some w)
    (allowed : σ.Allows (.act place (.setOwn true)))
    : σ.Outcome op
        (σ.after thread (keepLeft σ.wrappers place (some (w.setOwn true), σ.state thread))) := by
  have owing : (w.setOwn true).owed = w.target := w.owed_setOwn true
  cases owns : w.own with
  | true =>
      refine outcome_same there (.refl _) ?_
      rw [Option.bind_some, owing, w.owed_eq, owns, if_pos rfl]
  | false =>
      have owed : w.owed = none := by
        rw [w.owed_eq, owns]
        rfl
      cases target : w.target with
      | none =>
          refine outcome_same there (.refl _) ?_
          rw [Option.bind_some, owing, target, owed]
      | some g =>
          obtain ⟨has, free⟩ := allowed rfl w g there target owns
          refine .claimed g free has (settles_keepLeft there (.refl _) fun h => ?_)
          rw [Option.bind_some, owing, target, owed]
          exact Nat.add_comm _ _

end

/-- What an act does to its wrapper: nothing to what it owes, its end, or another owner. -/
theorem outcome_act {place : Nat} {w : Wrapper} (a : Wrapper.Act)
    (there : σ.wrappers[place]? = some w) (allowed : σ.Allows (.act place a))
    : σ.Outcome (.act place a)
        (σ.after thread (keepLeft σ.wrappers place (a.run w (σ.state thread)))) := by
  cases a with
  | setOwn own =>
      cases own with
      | true => exact outcome_setOwn there allowed
      | false =>
          exact outcome_gaveUp there (.refl _) (w.owed_setOwn false) fun h owes =>
            ⟨place, w, there, owes, .inr rfl⟩
  | release =>
      exact outcome_gaveUp there (.refl _) w.owed_release fun h owes =>
        ⟨place, w, there, owes, .inl rfl⟩
  | dispose =>
      exact outcome_ended there (w.pays_dispose _) (w.owed_dispose _) fun h owes =>
        ⟨place, w, there, owes, .inl rfl⟩
  | drop =>
      exact outcome_ended there (w.pays_drop _) rfl fun h owes =>
        ⟨place, w, there, owes, .inr (.inl rfl)⟩
  | collect =>
      cases w with
      | buffer b => exact outcome_same there (.refl _) rfl
      | token t => exact outcome_same there (.refl _) rfl
      | cursor k c =>
          exact outcome_ended there (c.pays_collect _) rfl fun h owes =>
            ⟨place, _, there, owes, .inr (.inr ⟨rfl, k, c, rfl⟩)⟩
  | useBuffer u =>
      cases w with
      | buffer b => exact outcome_same there (u.tame_run b _).spares.pays rfl
      | token t => exact outcome_same there (.refl _) rfl
      | cursor k c => exact outcome_same there (.refl _) rfl
  | useCursor u =>
      cases w with
      | buffer b => exact outcome_same there (.refl _) rfl
      | token t => exact outcome_same there (.refl _) rfl
      | cursor k c =>
          exact outcome_same there (u.tame_run c _).spares.pays
            (congrArg Handle.owed (u.handle_run c _))

/-- All that an operation can do, whichever it is. -/
theorem outcome_step (grounded : σ.Grounded) (thread : Nat) (allowed : σ.Allows op)
    : σ.Outcome op (σ.step (thread, op)) := by
  cases op with
  | nativeBuffer => exact outcome_spared (State.spares_newBuffer _).pays
  | nativeCursor elements => exact outcome_spared (State.spares_newCursor _ elements).pays
  | newBuffer => exact outcome_keepBuffer grounded (Buffer.built_new _)
  | bufferOfBytes bytes n => exact outcome_keepBuffer grounded (Buffer.built_ofBytesLen bytes n _)
  | copyBuffer source => exact outcome_keepBuffer grounded (Buffer.built_copy source _)
  | copyView v => exact outcome_keepBuffer grounded (Buffer.built_toBuffer v _)
  | adoptBuffer raw own =>
      refine outcome_adopt (.buffer { raw, own }) fun h owes => ?_
      obtain ⟨owns, target⟩ := Wrapper.target_of_owed owes
      obtain ⟨r, here, rfl⟩ := Option.map_eq_some_iff.1 target
      exact allowed owns r here
  | adoptCursor k raw own =>
      refine outcome_adopt (.cursor k (Cursor.ofRaw raw own)) fun h owes => ?_
      obtain ⟨owns, target⟩ := Wrapper.target_of_owed owes
      obtain ⟨r, here, rfl⟩ := Option.map_eq_some_iff.1 target
      exact allowed owns r here
  | adoptToken raw own =>
      refine outcome_adopt (.token { raw, own }) fun h owes => ?_
      obtain ⟨owns, target⟩ := Wrapper.target_of_owed owes
      obtain ⟨r, here, rfl⟩ := Option.map_eq_some_iff.1 target
      exact allowed owns r here
  | act place a =>
      cases there : σ.wrappers[place]? with
      | none =>
          simp only [step, Operation.run, there]
          exact outcome_spared (.refl _)
      | some w =>
          simp only [step, Operation.run, there]
          exact outcome_act a there allowed
  | flush => exact outcome_spared (State.pays_flush _)
  | flushTask => exact outcome_spared (State.pays_flush _)
  | setMainLoop on => exact outcome_spared (State.Spares.pays (.of_same rfl rfl rfl rfl))
  | failNextAlloc => exact outcome_spared (State.Spares.pays (.of_same rfl rfl rfl rfl))
  | failNextWrite => exact outcome_spared (State.Spares.pays (.of_same rfl rfl rfl rfl))
  | failNextWriteTo r => exact outcome_spared (State.Spares.pays (State.spares_setBuffer rfl))

-----------------------------------------------------------------------------------------
-- What every operation keeps
-----------------------------------------------------------------------------------------

/-- At most one claim on every object, and none on what is not there. -/
structure Sound (σ : System) : Prop where
  grounded : σ.Grounded
  single : ∀ h, σ.claims h ≤ 1

theorem sound_start (settings : Settings) (threads : Nat → Thread)
    : (start settings threads).Sound := by
  have none (h : NativeHandle) : (start settings threads).claims h = 0 := by
    cases h <;> rfl
  exact ⟨fun h _ => none h, fun h => by rw [none h]; exact Nat.zero_le 1⟩

theorem Settles.claims {opened paid closed : Option NativeHandle}
    (settles : σ.Settles τ opened paid closed) (h : NativeHandle)
    : τ.claims h + bill closed h = σ.claims h + bill opened h + bill paid h := by
  have spent := settles.spent h
  have owners := settles.owners h
  rw [claims_eq, claims_eq]
  omega

namespace Outcome

variable (outcome : σ.Outcome op τ)

include outcome

theorem has (h : NativeHandle)
    : σ.world.Has h → τ.world.Has h := by
  cases outcome with
  | kept settles | claimed _ _ _ settles | ended _ _ settles | undone _ _ _ settles
  | gaveUp _ _ settles => exact settles.has h

/-- One object's claims stay as they are, or are its first, or lose one that is given up. -/
theorem claims_cases (h : NativeHandle)
    : τ.claims h = σ.claims h
      ∨ (σ.claims h = 0 ∧ τ.claims h = 1 ∧ τ.world.Has h)
      ∨ (τ.claims h + 1 = σ.claims h ∧ σ.GivesUp op h) := by
  cases outcome with
  | kept settles => exact .inl (settles.claims h)
  | claimed g free has settles =>
      have claims := settles.claims h
      by_cases same : g = h
      · subst g
        rw [free, bill_self] at claims
        exact .inr (.inl ⟨free, claims, has⟩)
      · rw [bill_of_ne same] at claims
        exact .inl claims
  | ended g ends settles =>
      -- the owner's claim became a free that was spent
      exact .inl (Nat.add_right_cancel (settles.claims h))
  | undone g free has settles =>
      have claims := settles.claims h
      by_cases same : g = h
      · subst g
        rw [free, bill_self] at claims
        exact .inr (.inl ⟨free, claims, has⟩)
      · rw [bill_of_ne same] at claims
        exact .inl claims
  | gaveUp g gives settles =>
      have claims := settles.claims h
      by_cases same : g = h
      · subst g
        rw [bill_self] at claims
        exact .inr (.inr ⟨claims, gives⟩)
      · rw [bill_of_ne same] at claims
        exact .inl claims

theorem sound (sound : σ.Sound)
    : τ.Sound := by
  constructor
  · intro h absent
    have none : σ.claims h = 0 := sound.grounded h (absent ∘ outcome.has h)
    rcases outcome.claims_cases h with same | ⟨_, _, there⟩ | ⟨fewer, _⟩
    · exact same.trans none
    · exact absurd there absent
    · rw [none] at fewer
      cases fewer
  · intro h
    have most := sound.single h
    rcases outcome.claims_cases h with same | ⟨_, first, _⟩ | ⟨fewer, _⟩ <;> omega

/-- A claim is lost only where it is given up. -/
theorem gaveUp_of_lost (one : σ.claims h = 1) (lost : τ.claims h = 0)
    : σ.GivesUp op h := by
  rcases outcome.claims_cases h with same | ⟨none, _⟩ | ⟨_, gives⟩
  · omega
  · omega
  · exact gives

/-- What was spent stays spent. -/
theorem spent_le (h : NativeHandle)
    : σ.world.spent h ≤ τ.world.spent h := by
  cases outcome with
  | kept settles | claimed g free has settles | ended g ends settles
  | undone g free has settles | gaveUp g gives settles =>
      rw [settles.spent h]
      exact Nat.le_add_right _ _

end Outcome

theorem world_step_act {place : Nat} {w : Wrapper} (there : σ.wrappers[place]? = some w)
    (a : Wrapper.Act)
    : (σ.step (thread, .act place a)).world = (a.run w (σ.state thread)).2.world := by
  simp only [step, Operation.run, there, after]
  generalize a.run w (σ.state thread) = left
  obtain ⟨left, s⟩ := left
  cases left <;> rfl

/-- The free of an object is spent when an owner of it ends. -/
theorem spent_of_ends (ends : σ.Ends op h) (thread : Nat)
    : (σ.step (thread, op)).world.spent h = σ.world.spent h + 1 := by
  obtain ⟨place, w, there, owes, which⟩ := ends
  have once {s : State} (pays : State.Pays w.owed (σ.state thread) s)
      : s.world.spent h = σ.world.spent h + 1 := by
    rw [pays.spent h, owes, bill_self]
    rfl
  rcases which with rfl | rfl | ⟨rfl, k, c, rfl⟩
  · rw [world_step_act there]
    exact once (w.pays_dispose _)
  · rw [world_step_act there]
    exact once (w.pays_drop _)
  · rw [world_step_act there]
    exact once (c.pays_collect _)

-----------------------------------------------------------------------------------------
-- Whole runs
-----------------------------------------------------------------------------------------

theorem run_append (σ : System) (before after : List (Nat × Operation))
    : σ.run (before ++ after) = (σ.run before).run after :=
  List.foldl_append

theorem Lawful.append {before after : List (Nat × Operation)}
    (lawful : σ.Lawful (before ++ after))
    : σ.Lawful before ∧ (σ.run before).Lawful after := by
  induction before generalizing σ with
  | nil => exact ⟨trivial, lawful⟩
  | cons e es ih =>
      obtain ⟨allowed, more⟩ := lawful
      obtain ⟨first, second⟩ := ih more
      exact ⟨⟨allowed, first⟩, second⟩

/-- By induction on the operations. -/
theorem Sound.run {es : List (Nat × Operation)} (sound : σ.Sound) (lawful : σ.Lawful es)
    : (σ.run es).Sound := by
  induction es generalizing σ with
  | nil => exact sound
  | cons e es ih =>
      obtain ⟨allowed, more⟩ := lawful
      exact ih ((outcome_step sound.grounded e.1 allowed).sound sound) more

theorem Sound.spent_le_run {es : List (Nat × Operation)} (sound : σ.Sound) (lawful : σ.Lawful es)
    (h : NativeHandle)
    : σ.world.spent h ≤ (σ.run es).world.spent h := by
  induction es generalizing σ with
  | nil => exact Nat.le_refl _
  | cons e es ih =>
      obtain ⟨allowed, more⟩ := lawful
      have outcome := outcome_step sound.grounded e.1 allowed
      exact Nat.le_trans (outcome.spent_le h) (ih (outcome.sound sound) more)

/-- On the main loop a flush runs every free that was spent. -/
theorem freed_step_flush (main : (σ.threads thread).onMainLoop = true) (h : NativeHandle)
    : (σ.step (thread, .flush)).world.freed h = σ.world.spent h := by
  have same := (State.pays_flush (σ.state thread)).spent h
  have empty := State.queue_flush (σ.state thread) main
  rw [World.spent, World.queued, empty] at same
  exact same

/-- The free of an object whose owner ended is spent once, whatever comes after. -/
theorem Sound.spent_of_ended {es : List (Nat × Operation)} (sound : σ.Sound)
    (lawful : σ.Lawful ((thread, op) :: es)) (ends : σ.Ends op h)
    : (σ.run ((thread, op) :: es)).world.spent h = 1 := by
  obtain ⟨allowed, more⟩ := lawful
  have stepped : (σ.step (thread, op)).Sound :=
    (outcome_step sound.grounded thread allowed).sound sound
  have spent : 1 ≤ (σ.step (thread, op)).world.spent h := by
    rw [spent_of_ends ends thread]
    exact Nat.le_add_left 1 _
  have kept := stepped.spent_le_run more h
  have most := (stepped.run more).single h
  rw [claims_eq] at most
  show ((σ.step (thread, op)).run es).world.spent h = 1
  omega

/-- In every run that keeps the rule, on any threads, at most one free of an object was run, waits
or is owned by a wrapper; the one is lost only by giving it up; and once its owner ended, the object
is freed, exactly once, by the next flush on the main loop.
-/
theorem freed_exactly_once {settings : Settings} {threads : Nat → Thread}
    {es : List (Nat × Operation)} (lawful : (start settings threads).Lawful es)
    : (∀ h, ((start settings threads).run es).claims h ≤ 1)
      ∧ (∀ e h,
          ((start settings threads).run es).Allows e.2
          → ((start settings threads).run es).claims h = 1
          → (((start settings threads).run es).step e).claims h = 0
          → ((start settings threads).run es).GivesUp e.2 h)
      ∧ (∀ before thread op after h main,
          es = before ++ (thread, op) :: after
          → ((start settings threads).run before).Ends op h
          → (((start settings threads).run es).threads main).onMainLoop = true
          → (((start settings threads).run es).step (main, .flush)).world.freed h = 1) := by
  have sound := (sound_start settings threads).run lawful
  refine ⟨sound.single, ?_, ?_⟩
  · intro e h allowed one lost
    exact (outcome_step sound.grounded e.1 allowed).gaveUp_of_lost one lost
  · intro before thread op after h main split ends onMain
    subst split
    obtain ⟨lawfulBefore, lawfulAfter⟩ := lawful.append
    have soundBefore := (sound_start settings threads).run lawfulBefore
    rw [freed_step_flush onMain, run_append]
    exact soundBefore.spent_of_ended lawfulAfter ends

/-- A buffer is made, handed on to a new owner and dropped on a thread without a main loop. -/
def handedOn : List (Nat × Operation) :=
  [(0, .newBuffer), (0, .act 0 .release), (0, .adoptBuffer (some ⟨0⟩) true),
    (1, .setMainLoop false), (1, .act 1 .drop)]

theorem lawful_handedOn
    : (start {} fun _ => {}).Lawful handedOn := by
  refine ⟨trivial, trivial, ?_, trivial, trivial, trivial⟩
  intro _ r same
  cases same
  exact ⟨Nat.zero_lt_one, rfl⟩

theorem handedOn_freed_exactly_once
    : (∀ h, ((start {} fun _ => {}).run handedOn).claims h ≤ 1)
      ∧ (((start {} fun _ => {}).run handedOn).step (0, .flush)).world.freed (.buffer ⟨0⟩) = 1 := by
  obtain ⟨single, _, freed⟩ := freed_exactly_once lawful_handedOn
  refine ⟨single, ?_⟩
  have ends : ((start {} fun _ => {}).run (handedOn.take 4)).Ends (.act 1 .drop) (.buffer ⟨0⟩) :=
    ⟨1, .buffer { raw := some ⟨0⟩, own := true }, rfl, rfl, .inr (.inl rfl)⟩
  exact freed (handedOn.take 4) 1 (.act 1 .drop) [] (.buffer ⟨0⟩) 0 rfl ends rfl

end System

end Custody
