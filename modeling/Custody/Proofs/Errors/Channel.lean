import Custody.Proofs.Hosting.Uses

/-! The error channel as any threads use it: they register texts, ask error kinds for their numbers, use
wrappers without native objects, and raise and forget errors, in any order. Of each call it is said once
what it does to the table, to the kinds and to the last error of its thread; all that is kept over a run
follows from that.
-/

namespace Custody

namespace World

/-- The number that an error kind took, if it took one. -/
def numberOf (w : World) (kind : Ref LazyKind) : Option ErrorNumber :=
  (w.kinds.get kind).number

def kindText (w : World) (kind : Ref LazyKind) : List UInt8 :=
  (w.kinds.get kind).text

/-- The number of the entry that comes next into the table. -/
def nextNumber (w : World) : ErrorNumber :=
  .ofNat (w.errors.length + 1)

/-- What the table takes of a text: all that stands before its first zero byte. -/
def entry (text : List UInt8) : List UInt8 :=
  text.takeWhile (· != 0)

theorem index_lt_size {w : World} {kind : Ref LazyKind} (taken : (w.numberOf kind).isSome)
    : kind.index < w.kinds.size := by
  refine Nat.lt_of_not_le fun beyond => ?_
  rw [numberOf, w.kinds.get_of_size_le beyond] at taken
  exact Bool.false_ne_true taken

/-- What is registered when a kind is asked for its number: its text, unless it has a number already. -/
def entries (w : World) (kind : Ref LazyKind) : List (List UInt8) :=
  if (w.numberOf kind).isSome then [] else [entry (w.kindText kind)]

/-- Between the two worlds a kind was asked for its number: it had one, or it took the next and its text
joined the table.
-/
structure Asked (kind : Ref LazyKind) (v w : World) : Prop where
  errors : w.errors = v.errors ++ v.entries kind
  number : w.numberOf kind = some ((v.numberOf kind).getD v.nextNumber)
  numbers : ∀ k, k ≠ kind → w.numberOf k = v.numberOf k
  texts : ∀ k, w.kindText k = v.kindText k
  kinds : v.kinds.size ≤ w.kinds.size

/-- Entries, numbers and texts of the first world are those of the second, which may have more. -/
structure Later (v w : World) : Prop where
  errors : v.errors <+: w.errors
  numbers : ∀ kind n, v.numberOf kind = some n → w.numberOf kind = some n
  texts : ∀ kind, kind.index < v.kinds.size → w.kindText kind = v.kindText kind
  kinds : v.kinds.size ≤ w.kinds.size

namespace Later

variable {u v w : World}

theorem refl (w : World)
    : Later w w :=
  ⟨List.prefix_rfl, fun _ _ taken => taken, fun _ _ => rfl, Nat.le_refl _⟩

theorem trans (first : Later u v) (second : Later v w)
    : Later u w where
  errors := first.errors.trans second.errors
  numbers kind n taken := second.numbers kind n (first.numbers kind n taken)
  texts kind old :=
    (second.texts kind (Nat.lt_of_lt_of_le old first.kinds)).trans (first.texts kind old)
  kinds := Nat.le_trans first.kinds second.kinds

end Later

end World

-----------------------------------------------------------------------------------------
-- Calls
-----------------------------------------------------------------------------------------

/-- A call on the error channel. Kinds are asked for their numbers, are raised, and are raised in reports of
wrappers that have no native object, be it alone or in the course of a use.
-/
inductive ErrorCall
  | register (text : List UInt8)
  | newKind (text : List UInt8)
  | number (kind : Ref LazyKind)
  | raiseKind (kind : Ref LazyKind)
  | report (realm : Realm)
  | misuse (u : Use) (null : u.OnNull)
  | raise (n : ErrorNumber)
  | clear

namespace ErrorCall

def run (s : State) : ErrorCall → State
  | register text => (s.registerError text).2
  | newKind text => (s.newKind text).2
  | number kind => (s.kindNumber kind).2
  | raiseKind kind => (s.raiseKind kind).2
  | report realm => s.raiseNullHandle realm
  | misuse u _ => (u.run s).2
  | raise n => s.raise n
  | clear => s.clearError

/-- The number that a call answers or, where it answers none, raises. -/
def told (s : State) : ErrorCall → Option ErrorNumber
  | register text => some (s.registerError text).1
  | newKind _ => none
  | number kind => some (s.kindNumber kind).1
  | raiseKind kind => some (s.raiseKind kind).1
  | report realm => some (s.raiseNullHandle realm).thread.lastError
  | misuse u _ => some (u.run s).2.thread.lastError
  | raise n => some n
  | clear => some 0

/-- The error kind whose number the call needs. -/
def asks : ErrorCall → Option (Ref LazyKind)
  | number kind | raiseKind kind => some kind
  | report realm => some realm.nullHandleKind
  | misuse u _ => some u.realm.nullHandleKind
  | register _ | newKind _ | raise _ | clear => none

/-- Whether the call sets the last error of its thread. -/
def raises : ErrorCall → Bool
  | raiseKind _ | report _ | misuse .. | raise _ | clear => true
  | register _ | newKind _ | number _ => false

/-- The texts that a call registers: one that is given, or that of a kind without a number. -/
def enters (w : World) : ErrorCall → List (List UInt8)
  | register text => [World.entry text]
  | number kind | raiseKind kind => w.entries kind
  | report realm => w.entries realm.nullHandleKind
  | misuse u _ => w.entries u.realm.nullHandleKind
  | newKind _ | raise _ | clear => []

/-- All that a call does to the table, to the kinds and to the last error of its thread. -/
structure Effect (c : ErrorCall) (s t : State) : Prop where
  errors : t.world.errors = s.world.errors ++ c.enters s.world
  asked
    : ∀ kind, c.asks = some kind →
        t.world.numberOf kind = some ((s.world.numberOf kind).getD s.world.nextNumber)
        ∧ c.told s = t.world.numberOf kind
  numbers : ∀ kind, c.asks ≠ some kind → t.world.numberOf kind = s.world.numberOf kind
  texts : ∀ kind, kind.index < s.world.kinds.size → t.world.kindText kind = s.world.kindText kind
  kinds : s.world.kinds.size ≤ t.world.kinds.size
  last : some t.thread.lastError = if c.raises then c.told s else some s.thread.lastError

end ErrorCall

namespace State

theorem fst_registerError (s : State) (text : List UInt8)
    : (s.registerError text).1 = s.world.nextNumber :=
  congrArg Int32.ofNat List.length_append

variable (s : State) (kind : Ref LazyKind)

/-- The kind answers the number that it has, or takes the next. -/
theorem asked_kindNumber
    : World.Asked kind s.world (s.kindNumber kind).2.world := by
  cases number : (s.world.kinds.get kind).number with
  | some n =>
      have taken : s.world.numberOf kind = some n := number
      simp only [kindNumber, number]
      refine ⟨?_, ?_, fun _ _ => rfl, fun _ => rfl, Nat.le_refl _⟩
      · rw [World.entries, taken]
        exact (List.append_nil _).symm
      · rw [taken]
        rfl
  | none =>
      have free : s.world.numberOf kind = none := number
      simp only [kindNumber, number]
      refine ⟨?_, ?_, fun k other => ?_, fun k => ?_, s.world.kinds.size_le_put kind _⟩
      · rw [World.entries, free]
        rfl
      · rw [free, Option.getD_none]
        show ((s.world.kinds.put kind _).get kind).number = _
        rw [Heap.get_put_self, fst_registerError]
      · exact congrArg LazyKind.number (s.world.kinds.get_put_of_ne _ other)
      · refine Heap.keeps_put s.world.kinds (f := LazyKind.text) ?_ k
        rfl

/-- The answer is the number that the kind then has. -/
theorem numberOf_kindNumber
    : (s.kindNumber kind).2.world.numberOf kind = some (s.kindNumber kind).1 := by
  cases number : (s.world.kinds.get kind).number with
  | some n =>
      simp only [kindNumber, number]
      exact number
  | none =>
      simp only [kindNumber, number]
      exact congrArg LazyKind.number (Heap.get_put_self ..)

theorem asked_raiseNullHandle (realm : Realm)
    : World.Asked realm.nullHandleKind s.world (s.raiseNullHandle realm).world :=
  have asked := (s.note (.usedAfterRelease realm)).asked_kindNumber realm.nullHandleKind
  ⟨asked.errors, asked.number, asked.numbers, asked.texts, asked.kinds⟩

/-- A report raises the number that the kind then has. -/
theorem numberOf_raiseNullHandle (realm : Realm)
    : (s.raiseNullHandle realm).world.numberOf realm.nullHandleKind
      = some (s.raiseNullHandle realm).thread.lastError :=
  (s.note _).numberOf_kindNumber realm.nullHandleKind

end State

namespace ErrorCall

variable {s t : State} {c : ErrorCall}

theorem enters_of_asks {w : World} {kind : Ref LazyKind} (asks : c.asks = some kind)
    : c.enters w = w.entries kind := by
  cases c <;> cases asks <;> rfl

theorem enters_of_asks_none {w : World} (asks : c.asks = none) (ungiven : ∀ text, c ≠ register text)
    : c.enters w = [] := by
  cases c with
  | register text => exact absurd rfl (ungiven text)
  | newKind | raise | clear => rfl
  | _ => cases asks

/-- A call that asks a kind for its number does no more than that, and perhaps raises the number. -/
theorem Effect.of_asked {kind : Ref LazyKind} (asks : c.asks = some kind)
    (asked : World.Asked kind s.world t.world) (told : c.told s = t.world.numberOf kind)
    (last : some t.thread.lastError = if c.raises then c.told s else some s.thread.lastError)
    : c.Effect s t where
  errors := by rw [asked.errors, enters_of_asks asks]
  asked k needs := by
    obtain rfl : kind = k := Option.some.inj (asks.symm.trans needs)
    exact ⟨asked.number, told⟩
  numbers k other := asked.numbers k fun same => other (same ▸ asks)
  texts k _ := asked.texts k
  kinds := asked.kinds
  last := last

/-- One case for each call. -/
theorem effect_run (c : ErrorCall) (s : State)
    : c.Effect s (c.run s) := by
  cases c with
  | register text => exact ⟨rfl, nofun, fun _ _ => rfl, fun _ _ => rfl, Nat.le_refl _, rfl⟩
  | newKind text =>
      refine ⟨(List.append_nil _).symm, nofun, fun k _ => ?_, fun k old => ?_, ?_, rfl⟩
      · refine Heap.keeps_alloc s.world.kinds (f := LazyKind.number) ?_ k
        rfl
      · exact congrArg LazyKind.text (s.world.kinds.get_alloc_of_ne _ old)
      · exact Nat.le_of_lt (s.world.kinds.size_lt_alloc _)
  | number kind =>
      refine .of_asked rfl (s.asked_kindNumber kind) (s.numberOf_kindNumber kind).symm ?_
      exact congrArg (some ·.lastError) (s.thread_kindNumber kind)
  | raiseKind kind =>
      exact .of_asked rfl (s.asked_kindNumber kind) (s.numberOf_kindNumber kind).symm rfl
  | report realm =>
      exact .of_asked rfl (s.asked_raiseNullHandle realm) (s.numberOf_raiseNullHandle realm).symm rfl
  | misuse u null =>
      -- without a native object, all that is left of the use is the report
      have reports : (u.run s).2 = s.raiseNullHandle u.realm :=
        congrArg Prod.snd (u.run_of_onNull s null)
      refine .of_asked rfl ?_ ?_ rfl
      · rw [run, reports]
        exact s.asked_raiseNullHandle u.realm
      · rw [run, told, reports, s.numberOf_raiseNullHandle]
  | raise n | clear =>
      exact ⟨(List.append_nil _).symm, nofun, fun _ _ => rfl, fun _ _ => rfl, Nat.le_refl _, rfl⟩

theorem Effect.later (effect : c.Effect s t)
    : World.Later s.world t.world where
  errors := effect.errors ▸ List.prefix_append ..
  numbers kind n taken := by
    by_cases asks : c.asks = some kind
    · rw [(effect.asked kind asks).1, taken]
      rfl
    · rw [effect.numbers kind asks, taken]
  texts := effect.texts
  kinds := effect.kinds

end ErrorCall

-----------------------------------------------------------------------------------------
-- Runs
-----------------------------------------------------------------------------------------

/-- The records of all threads and the world they share. -/
structure ErrorChannel where
  threads : Nat → Thread
  world : World

namespace ErrorChannel

/-- Before the first call no thread has a last error, and only the kinds for released wrappers exist. -/
def start (settings : Settings) (threads : Nat → Thread) : ErrorChannel where
  threads i := { threads i with lastError := 0 }
  world := (State.blank settings).world

/-- The state in which a thread runs. -/
def state (σ : ErrorChannel) (i : Nat) : State :=
  { thread := σ.threads i, world := σ.world }

def step (σ : ErrorChannel) (e : Nat × ErrorCall) : ErrorChannel where
  threads j := if j = e.1 then (e.2.run (σ.state e.1)).thread else σ.threads j
  world := (e.2.run (σ.state e.1)).world

def run (σ : ErrorChannel) (calls : List (Nat × ErrorCall)) : ErrorChannel :=
  calls.foldl step σ

/-- The kinds that were asked for their numbers. -/
def asked (calls : List (Nat × ErrorCall)) : List (Ref LazyKind) :=
  calls.filterMap (·.2.asks)

variable {σ : ErrorChannel}

theorem effect_step (σ : ErrorChannel) (e : Nat × ErrorCall)
    : e.2.Effect (σ.state e.1) ((σ.step e).state e.1) := by
  have same : (σ.step e).state e.1 = e.2.run (σ.state e.1) := by
    simp only [state, step, if_true]
  rw [same]
  exact e.2.effect_run _

theorem later_step (σ : ErrorChannel) (e : Nat × ErrorCall)
    : World.Later σ.world (σ.step e).world :=
  (σ.effect_step e).later

theorem later_run (σ : ErrorChannel) (calls : List (Nat × ErrorCall))
    : World.Later σ.world (σ.run calls).world := by
  induction calls generalizing σ with
  | nil => exact .refl _
  | cons e rest ih => exact (σ.later_step e).trans (ih (σ.step e))

/-- A kind has a number exactly if it had one or was asked for it. -/
theorem isSome_numberOf_run (σ : ErrorChannel) (calls : List (Nat × ErrorCall)) (kind : Ref LazyKind)
    : ((σ.run calls).world.numberOf kind).isSome
      ↔ (σ.world.numberOf kind).isSome ∨ kind ∈ asked calls := by
  induction calls generalizing σ with
  | nil => simp [run, asked]
  | cons e rest ih =>
      have step
          : ((σ.step e).world.numberOf kind).isSome
            ↔ (σ.world.numberOf kind).isSome ∨ e.2.asks = some kind := by
        have effect := σ.effect_step e
        by_cases asks : e.2.asks = some kind
        · simpa only [asks, or_true, iff_true] using (effect.asked kind asks).1 ▸ rfl
        · have kept : (σ.step e).world.numberOf kind = σ.world.numberOf kind :=
            effect.numbers kind asks
          rw [kept]
          simp only [asks, or_false]
      have first : kind ∈ asked (e :: rest) ↔ e.2.asks = some kind ∨ kind ∈ asked rest := by
        cases needs : e.2.asks with
        | none => simp [asked, needs]
        | some other => simp [asked, needs, eq_comm]
      rw [first, ← or_assoc, ← step]
      exact ih (σ.step e)

/-- Only the calls that raise set the last error of their thread. -/
theorem lastError_step {i : Nat} {e : Nat × ErrorCall} (quiet : e.1 = i → e.2.raises = false)
    : ((σ.step e).threads i).lastError = (σ.threads i).lastError := by
  by_cases here : e.1 = i
  · have last := (σ.effect_step e).last
    rw [quiet here] at last
    obtain rfl := here
    exact Option.some.inj last
  · have other : i ≠ e.1 := fun same => here same.symm
    simp only [step, if_neg other]

theorem lastError_run {i : Nat} (σ : ErrorChannel) {calls : List (Nat × ErrorCall)}
    (quiet : ∀ e ∈ calls, e.1 = i → e.2.raises = false)
    : ((σ.run calls).threads i).lastError = (σ.threads i).lastError := by
  induction calls generalizing σ with
  | nil => rfl
  | cons e rest ih =>
      have later := ih (σ.step e) fun e' there => quiet e' (List.mem_cons_of_mem _ there)
      exact later.trans (lastError_step (quiet e List.mem_cons_self))

end ErrorChannel

end Custody
