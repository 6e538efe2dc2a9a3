import Custody.Proofs.Deferral.Conservation

/-! The life of one ownership token, from its making over an object to its drop. The calls in between, from
any threads, raise and lower its flag, release the object and dispose of it. What counts is the first call
that is more than a setting of the flag, or the drop where there is none: the object is freed there, and only
there, if it is no release and finds the flag set. After it the token is empty for good.
-/

namespace Custody

-----------------------------------------------------------------------------------------
-- Calls
-----------------------------------------------------------------------------------------

/-- An ownership token at some time of its life, and the world that it is used in. -/
structure HandleLife (α : Type) where
  token : Handle α
  world : World

namespace HandleLife

/-- A call that keeps the token. -/
inductive Call
  | setOwn (own : Bool)
  | release
  | dispose
deriving DecidableEq

variable {α : Type}

/-- A new token over an object. -/
def start (r : Ref α) (own : Bool) (world : World) : HandleLife α :=
  { token := { raw := some r, own }, world }

/-- The state in which a thread makes its call. -/
def state (σ : HandleLife α) (thread : Thread) : State :=
  { thread, world := σ.world }

/-- Flushes by several threads, one after the other. -/
def flushes (world : World) (threads : List Thread) : World :=
  threads.foldl (fun world thread => ({ thread, world } : State).flush.2.world) world

variable [Freeable α]

/-- One call, by the thread that it stands with. -/
def step (σ : HandleLife α) (e : Thread × Call) : HandleLife α :=
  match e.2 with
  | .setOwn own => { σ with token := { σ.token with own } }
  | .release => { σ with token := σ.token.release.2 }
  | .dispose =>
      { token := (σ.token.dispose (σ.state e.1)).1
        world := (σ.token.dispose (σ.state e.1)).2.world }

def run (σ : HandleLife α) (calls : List (Thread × Call)) : HandleLife α :=
  calls.foldl step σ

@[simp]
theorem run_nil (σ : HandleLife α)
    : σ.run [] = σ :=
  rfl

@[simp]
theorem run_cons (σ : HandleLife α) (e : Thread × Call) (rest : List (Thread × Call))
    : σ.run (e :: rest) = (σ.step e).run rest :=
  rfl

/-- The world after a thread dropped the token. -/
def drop (σ : HandleLife α) (thread : Thread) : World :=
  (σ.token.drop (σ.state thread)).world

-----------------------------------------------------------------------------------------
-- The call that counts
-----------------------------------------------------------------------------------------

/-- The calls end the token's hold on its object. -/
def Ends (calls : List Call) : Prop :=
  .release ∈ calls ∨ .dispose ∈ calls

instance (calls : List Call) : Decidable (Ends calls) :=
  inferInstanceAs (Decidable (_ ∨ _))

@[simp]
theorem not_ends_nil
    : ¬ Ends [] := by
  simp [Ends]

@[simp]
theorem ends_cons {c : Call} {rest : List Call}
    : Ends (c :: rest) ↔ c = .release ∨ c = .dispose ∨ Ends rest := by
  simp only [Ends, List.mem_cons, eq_comm (a := c)]
  exact or_or_or_comm.trans or_assoc

/-- With the flag as it is at first, the calls and the drop after them free the object: the first that is more
than a setting of the flag is a disposal or the drop, and finds the flag set.
-/
inductive Frees : Bool → List Call → Prop
  | drop : Frees true []
  | dispose (rest : List Call) : Frees true (.dispose :: rest)
  | setOwn (own flag : Bool) {rest : List Call} (later : Frees flag rest)
    : Frees own (.setOwn flag :: rest)

@[simp]
theorem frees_nil {own : Bool}
    : Frees own [] ↔ own = true := by
  constructor
  · intro frees
    cases frees with
    | drop => rfl
  · rintro rfl
    exact .drop

@[simp]
theorem frees_setOwn {own flag : Bool} {rest : List Call}
    : Frees own (.setOwn flag :: rest) ↔ Frees flag rest := by
  constructor
  · intro frees
    cases frees with
    | setOwn _ _ later => exact later
  · intro later
    exact .setOwn own flag later

@[simp]
theorem not_frees_release {own : Bool} {rest : List Call}
    : ¬ Frees own (.release :: rest) :=
  nofun

@[simp]
theorem frees_dispose {own : Bool} {rest : List Call}
    : Frees own (.dispose :: rest) ↔ own = true := by
  constructor
  · intro frees
    cases frees with
    | dispose => rfl
  · rintro rfl
    exact .dispose rest

/-- By recursion on the calls, up to the one that counts. -/
instance decidableFrees : (own : Bool) → (calls : List Call) → Decidable (Frees own calls)
  | _, [] => decidable_of_iff _ frees_nil.symm
  | _, .setOwn flag :: rest =>
      have := decidableFrees flag rest
      decidable_of_iff _ frees_setOwn.symm
  | _, .release :: _ => isFalse not_frees_release
  | _, .dispose :: _ => decidable_of_iff _ frees_dispose.symm

/-- What the token frees in all. -/
def freed (r : Ref α) (own : Bool) (calls : List Call) : Option NativeHandle :=
  if Frees own calls then some (Freeable.handle r) else none

@[simp]
theorem freed_setOwn (r : Ref α) {own flag : Bool} {rest : List Call}
    : freed r own (.setOwn flag :: rest) = freed r flag rest :=
  ite_congr (propext frees_setOwn) (fun _ => rfl) fun _ => rfl

variable {σ : HandleLife α} {r : Ref α}

-----------------------------------------------------------------------------------------
-- After the call that counts
-----------------------------------------------------------------------------------------

/-- A token without an object owes nothing. -/
theorem owed_of_null (null : σ.token.raw = none)
    : σ.token.owed = none := by
  unfold Handle.owed
  rw [null]
  exact ite_self none

/-- Without an object a call changes nothing but the flag. -/
theorem step_of_null (null : σ.token.raw = none) (e : Thread × Call)
    : (σ.step e).token.raw = none ∧ (σ.step e).world = σ.world := by
  obtain ⟨thread, c⟩ := e
  cases c with
  | setOwn own => exact ⟨null, rfl⟩
  | release => exact ⟨rfl, rfl⟩
  | dispose =>
      refine ⟨rfl, ?_⟩
      show (σ.token.owed.elim (σ.state thread) (σ.state thread).free).world = σ.world
      rw [owed_of_null null]
      rfl

/-- By induction on the calls. -/
theorem run_of_null (null : σ.token.raw = none) (calls : List (Thread × Call))
    : (σ.run calls).token.raw = none ∧ (σ.run calls).world = σ.world := by
  induction calls generalizing σ with
  | nil => exact ⟨null, rfl⟩
  | cons e rest ih =>
      obtain ⟨null', same⟩ := step_of_null null e
      obtain ⟨empty, kept⟩ := ih null'
      exact ⟨empty, kept.trans same⟩

/-- Nor do all the calls and the drop change anything in the world. -/
theorem drop_of_null (null : σ.token.raw = none) (calls : List (Thread × Call)) (last : Thread)
    : (σ.run calls).drop last = σ.world := by
  obtain ⟨null', same⟩ := run_of_null null calls
  show (((σ.run calls).state last).schedulePointer (σ.run calls).token.owed).world = σ.world
  rw [owed_of_null null']
  exact same

/-- The token refers to its object until a call ends its hold, and is empty from then on; by induction on the
calls.
-/
theorem raw_run (σ : HandleLife α) (calls : List (Thread × Call))
    : (σ.run calls).token.raw = if Ends (calls.map Prod.snd) then none else σ.token.raw := by
  induction calls generalizing σ with
  | nil => simp
  | cons e rest ih =>
      obtain ⟨thread, c⟩ := e
      cases c with
      | setOwn own => simp [ih, step]
      | release =>
          have null : (σ.step (thread, .release)).token.raw = none := rfl
          simp [(run_of_null null rest).1]
      | dispose =>
          have null : (σ.step (thread, .dispose)).token.raw = none := rfl
          simp [(run_of_null null rest).1]

-----------------------------------------------------------------------------------------
-- What is freed
-----------------------------------------------------------------------------------------

theorem owed_of_raw (held : σ.token.raw = some r)
    : σ.token.owed = if σ.token.own then some (Freeable.handle r) else none := by
  unfold Handle.owed
  rw [held, Option.map_some]

/-- Up to the drop, one free of the object is spent if the token frees it, and none of any other; by induction
on the calls.
-/
theorem spent_drop (held : σ.token.raw = some r) (calls : List (Thread × Call)) (last : Thread)
    (h : NativeHandle)
    : ((σ.run calls).drop last).spent h
      = σ.world.spent h + bill (freed r σ.token.own (calls.map Prod.snd)) h := by
  induction calls generalizing σ with
  | nil =>
      have paid := (σ.token.pays_drop (σ.state last)).spent h
      rw [owed_of_raw held] at paid
      simpa [freed, drop, state] using paid
  | cons e rest ih =>
      obtain ⟨thread, c⟩ := e
      cases c with
      | setOwn own =>
          have held' : (σ.step (thread, .setOwn own)).token.raw = some r := held
          rw [run_cons, ih held']
          simp [step]
      | release =>
          have null : (σ.step (thread, .release)).token.raw = none := rfl
          rw [run_cons, drop_of_null null]
          simp [freed, step]
      | dispose =>
          have null : (σ.step (thread, .dispose)).token.raw = none := rfl
          have paid := (σ.token.pays_dispose (σ.state thread)).spent h
          rw [owed_of_raw held] at paid
          rw [run_cons, drop_of_null null]
          simpa [freed, step, state] using paid

/-- A call neither queues a free nor changes the settings. -/
theorem waiting_step (σ : HandleLife α) (e : Thread × Call)
    : (σ.step e).world.queue = σ.world.queue
      ∧ (σ.step e).world.settings = σ.world.settings := by
  obtain ⟨thread, c⟩ := e
  cases c with
  | setOwn own => exact ⟨rfl, rfl⟩
  | release => exact ⟨rfl, rfl⟩
  | dispose =>
      simp only [step, Handle.dispose]
      cases σ.token.owed with
      | none => exact ⟨rfl, rfl⟩
      | some g => cases g <;> exact ⟨rfl, rfl⟩

/-- By induction on the calls. -/
theorem waiting_run (σ : HandleLife α) (calls : List (Thread × Call))
    : (σ.run calls).world.queue = σ.world.queue
      ∧ (σ.run calls).world.settings = σ.world.settings := by
  induction calls generalizing σ with
  | nil => exact ⟨rfl, rfl⟩
  | cons e rest ih =>
      obtain ⟨queue, settings⟩ := σ.waiting_step e
      obtain ⟨queue', settings'⟩ := ih (σ.step e)
      exact ⟨queue'.trans queue, settings'.trans settings⟩

/-- Where a free may run at once, the drop leaves none waiting. -/
theorem queue_drop (σ : HandleLife α) (calls : List (Thread × Call)) {last : Thread}
    (immediate : σ.world.settings.deferAll = false) (main : last.onMainLoop = true)
    : ((σ.run calls).drop last).queue = σ.world.queue := by
  obtain ⟨queue, settings⟩ := σ.waiting_run calls
  have inline : ((σ.run calls).state last).freesInline = true := by
    simp [State.freesInline, state, settings, immediate, main]
  have dropped := State.queue_schedulePointer ((σ.run calls).state last) (σ.run calls).token.owed
  rw [if_pos inline] at dropped
  exact dropped.trans queue

-----------------------------------------------------------------------------------------
-- Flushes
-----------------------------------------------------------------------------------------

theorem flushes_cons (world : World) (thread : Thread) (rest : List Thread)
    : flushes world (thread :: rest)
      = flushes ({ thread, world } : State).flush.2.world rest :=
  rfl

/-- Flushes spend no frees; by induction on them. -/
theorem spent_flushes (world : World) (threads : List Thread) (h : NativeHandle)
    : (flushes world threads).spent h = world.spent h := by
  induction threads generalizing world with
  | nil => rfl
  | cons thread rest ih =>
      rw [flushes_cons, ih, (State.pays_flush _).spent h]
      simp

/-- Once nothing waits, nothing comes to wait. -/
theorem queue_flushes_of_nil {world : World} (none : world.queue = []) (threads : List Thread)
    : (flushes world threads).queue = [] := by
  induction threads generalizing world with
  | nil => exact none
  | cons thread rest ih =>
      rw [flushes_cons]
      apply ih
      cases main : thread.onMainLoop with
      | true => exact State.queue_flush _ main
      | false =>
          unfold State.flush
          rw [main]
          exact none

/-- Nothing waits after flushes of which one is on the main loop; by induction on them. -/
theorem queue_flushes (world : World) {threads : List Thread} {main : Thread} (there : main ∈ threads)
    (onMain : main.onMainLoop = true)
    : (flushes world threads).queue = [] := by
  induction threads generalizing world with
  | nil => cases there
  | cons thread rest ih =>
      rw [flushes_cons]
      rcases List.mem_cons.1 there with rfl | later
      · exact queue_flushes_of_nil (State.queue_flush _ onMain) rest
      · exact ih _ later

/-- A token is made over an object with either flag, used by any threads and dropped by one. After any flushes
of which one is on the main loop, what waited at first was freed, and besides it only the object, once, if its
calls and the drop free it; where the drop may free at once, no flush is needed for that. A release gives the
object until a call ends the token's hold, and from then on the token is empty.
-/
theorem freed_where_owned_at_end (r : Ref α) (own : Bool) (world : World)
    (calls : List (Thread × Call)) (last : Thread)
    : let σ := (start r own world).run calls
      let acts := calls.map Prod.snd
      (∀ threads main h, main ∈ threads → main.onMainLoop = true →
          (flushes (σ.drop last) threads).freed h = world.spent h + bill (freed r own acts) h)
      ∧ (∀ h, world.settings.deferAll = false → last.onMainLoop = true →
          (σ.drop last).freed h = world.freed h + bill (freed r own acts) h)
      ∧ (¬ Ends acts → σ.token.release.1 = some r)
      ∧ (Ends acts → σ.token.release.1 = none ∧ σ.token.isNull = true) := by
  intro σ acts
  have spent (h : NativeHandle)
      : (σ.drop last).spent h = world.spent h + bill (freed r own acts) h :=
    spent_drop (σ := start r own world) rfl calls last h
  have raw : σ.token.raw = if Ends acts then none else some r := raw_run (start r own world) calls
  refine ⟨?_, ?_, ?_, ?_⟩
  · intro threads main h there onMain
    have empty := queue_flushes (σ.drop last) there onMain
    have flushed := spent_flushes (σ.drop last) threads h
    rw [spent h, World.spent, World.queued, empty] at flushed
    exact flushed
  · intro h immediate onMain
    have waits := queue_drop (start r own world) calls immediate onMain
    have dropped := spent h
    have same : (σ.drop last).queued h = world.queued h := congrArg (List.count h) waits
    rw [World.spent, World.spent, same] at dropped
    omega
  · intro holds
    exact raw.trans (if_neg holds)
  · intro ended
    have none : σ.token.raw = none := raw.trans (if_pos ended)
    refine ⟨none, ?_⟩
    rw [Handle.isNull, none]
    rfl

/-- A thread that is not that of the main loop. -/
def worker : Thread :=
  { onMainLoop := false }

/-- A world with one buffer in it. -/
def oneBuffer : World :=
  (State.blank {}).newBuffer.2.world

def firstBuffer : Ref Native.Buffer :=
  ⟨0⟩

/-- A flag that is raised late and lowered in between counts at the drop. -/
def raised : List (Thread × Call) :=
  [(worker, .setOwn true), ({}, .setOwn false), (worker, .setOwn true)]

/-- A flag that is set after a release comes too late. -/
def released : List (Thread × Call) :=
  [({}, .setOwn false), (worker, .release), (worker, .setOwn true), ({}, .dispose)]

/-- The one buffer is freed by the flush that is on the main loop, once; the other time it is not freed. -/
theorem raised_freed_released_not
    : (flushes (((start firstBuffer false oneBuffer).run raised).drop worker) [worker, {}, {}]).freed
          (.buffer firstBuffer)
        = 1
      ∧ (flushes (((start firstBuffer true oneBuffer).run released).drop worker) [worker, {}]).freed
          (.buffer firstBuffer)
        = 0
      ∧ ((start firstBuffer true oneBuffer).run released).token.isNull = true := by
  obtain ⟨once, -, -, -⟩ := freed_where_owned_at_end firstBuffer false oneBuffer raised worker
  obtain ⟨never, -, -, empty⟩ := freed_where_owned_at_end firstBuffer true oneBuffer released worker
  refine ⟨?_, ?_, (empty (by decide)).2⟩
  · exact once [worker, {}, {}] {} (.buffer firstBuffer) (by decide) rfl
  · exact never [worker, {}] {} (.buffer firstBuffer) (by decide) rfl

end HandleLife

end Custody
