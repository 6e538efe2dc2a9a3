import Custody.Proofs.Cursors.Draws
import Mathlib.Data.List.Forall2

/-! One native cursor under any number of wrappers. Any threads make wrappers of it, of any kinds of
elements, take values through them, and end them, in any order; the elements come out in their
order, each of them once.
-/

namespace Custody

/-- A wrapper of the shared cursor. -/
structure Adapter where
  kind : ElementKind
  cursor : Cursor kind

/-- A value that a wrapper handed to its caller. -/
structure Handed where
  /-- The place of the wrapper in the order of making. -/
  place : Nat
  kind : ElementKind
  value : kind.Carrier

/-- The value of an element, as its wrapper reads it. -/
def Handed.Reads (d : Handed) (e : Native.Element) : Prop :=
  d.value = d.kind.read e

namespace Adapter

/-- What can be done with a wrapper. -/
inductive Call
  | next
  | take (n : Nat)
  | collect
  | setOwn (own : Bool)
  | release
  | dispose
  | drop
deriving DecidableEq

/-- The wrapper with another token. -/
def withHandle (a : Adapter) (handle : Handle Native.Cursor) : Adapter :=
  { a with cursor := { a.cursor with handle } }

namespace Call

/-- Calls a wrapper: the values that the caller gets, and the wrapper unless it ended. -/
def run (c : Call) (a : Adapter) (s : State) : List a.kind.Carrier × Option Adapter × State :=
  match c with
  | next =>
      ((a.cursor.next s).1.toList, some { a with cursor := (a.cursor.next s).2.1 },
        (a.cursor.next s).2.2)
  | take n =>
      ((a.cursor.take n s).1, some { a with cursor := (a.cursor.take n s).2.1 },
        (a.cursor.take n s).2.2)
  | collect => ((a.cursor.collect s).1, none, (a.cursor.collect s).2)
  | setOwn own => ([], some (a.withHandle { a.cursor.handle with own }), s)
  | release => ([], some (a.withHandle a.cursor.handle.release.2), s)
  | dispose => ([], some (a.withHandle (a.cursor.handle.dispose s).1), (a.cursor.handle.dispose s).2)
  | drop => ([], none, a.cursor.handle.drop s)

/-- How many values a call wants of a cursor with `left` elements. To collect is to ask once more
than there are.
-/
def wants (left : Nat) : Call → Nat
  | next => 1
  | take n => n
  | collect => left + 1
  | _ => 0

/-- Whether a caller that got so many values was told of the end. -/
def tellsEnd (got : Nat) : Call → Bool
  | next => got == 0
  | take n => got < n
  | collect => true
  | _ => false

/-- The end is told where fewer elements are left than the call wants. -/
theorem tellsEnd_min (c : Call) (left : Nat)
    : c.tellsEnd (min (c.wants left) left) = decide (left < c.wants left) := by
  cases c with
  | next =>
      cases left with
      | zero => rfl
      | succ left =>
          have one : min 1 (left + 1) = 1 := by omega
          have notLess : ¬ left + 1 < 1 := by omega
          show (min 1 (left + 1) == 0) = decide (left + 1 < 1)
          rw [one, decide_eq_false notLess]
          rfl
  | take n =>
      have same : min n left < n ↔ left < n := by omega
      exact decide_eq_decide.2 same
  | collect => exact (decide_eq_true (Nat.lt_succ_self left)).symm
  | setOwn | release | dispose | drop => rfl

end Call

variable {a b : Adapter} {r : Ref Native.Cursor}

/-- What is left of a wrapper after a call that met the end or not. -/
structure Leaves (a : Adapter) (met : Bool) (b : Adapter) : Prop where
  exhausted : b.cursor.exhausted = (a.cursor.exhausted || met)
  raw : ∀ q, b.cursor.handle.raw = some q → a.cursor.handle.raw = some q

theorem Leaves.refl (a : Adapter)
    : a.Leaves false a :=
  ⟨(Bool.or_false _).symm, fun _ => id⟩

namespace Call

/-- How many values a call draws from a cursor with `left` elements. -/
def draws (c : Call) (a : Adapter) (left : Nat) : Nat :=
  if a.cursor.Asks then c.wants left else 0

/-- A call on a wrapper of the cursor draws what it wants if the wrapper asks, and nothing otherwise;
the wrapper notes down whether the end was met.
-/
theorem draws_run (c : Call) (only : ∀ q, a.cursor.handle.raw = some q → q = r) (s : State)
    : s.Draws r (c.draws a (s.reading r).1.length) (c.run a s).1 (c.run a s).2.2
      ∧ ∀ b,
          (c.run a s).2.1 = some b
          → a.Leaves (decide ((s.reading r).1.length < c.draws a (s.reading r).1.length)) b := by
  have never : decide ((s.reading r).1.length < 0) = false := decide_eq_false (Nat.not_lt_zero _)
  unfold draws
  cases c with
  | next =>
      by_cases asks : a.cursor.Asks
      · have raw := asks.raw_eq only
        rw [if_pos asks]
        refine ⟨Cursor.draws_next asks raw s, ?_⟩
        rintro _ ⟨⟩
        obtain ⟨-, left, -⟩ := Cursor.next_of_asks asks raw s
        have met : (s.reading r).1.isEmpty = decide ((s.reading r).1.length < 1) := by
          cases (s.reading r).1 <;> simp
        refine ⟨?_, by simp only [left]; exact fun _ => id⟩
        rw [asks.1, Bool.false_or]
        simp only [left, met]
        rfl
      · simp only [if_neg asks, never, run, Cursor.next_of_not_asks asks]
        refine ⟨.of_same rfl, ?_⟩
        rintro _ ⟨⟩
        exact .refl a
  | take n =>
      by_cases asks : a.cursor.Asks
      · obtain ⟨draws, left⟩ := Cursor.draws_take asks (asks.raw_eq only) n s
        rw [if_pos asks]
        refine ⟨draws, ?_⟩
        rintro _ ⟨⟩
        refine ⟨?_, by simp only [left]; exact fun _ => id⟩
        rw [asks.1, Bool.false_or]
        simp only [left]
        rfl
      · simp only [if_neg asks, never, run, Cursor.take_of_not_asks asks]
        refine ⟨.of_same rfl, ?_⟩
        rintro _ ⟨⟩
        exact .refl a
  | collect =>
      refine ⟨?_, nofun⟩
      by_cases asks : a.cursor.Asks
      · rw [if_pos asks]
        exact Cursor.draws_collect asks (asks.raw_eq only) s
      · simp only [if_neg asks, run, Cursor.collect, Cursor.take_of_not_asks asks]
        exact .of_same ((State.freeing_schedulePointer s _).reading r)
  | setOwn own =>
      simp only [wants, ite_self, never]
      refine ⟨.of_same rfl, ?_⟩
      rintro _ ⟨⟩
      exact ⟨(Bool.or_false _).symm, fun _ => id⟩
  | release =>
      simp only [wants, ite_self, never]
      refine ⟨.of_same rfl, ?_⟩
      rintro _ ⟨⟩
      exact ⟨(Bool.or_false _).symm, nofun⟩
  | dispose =>
      simp only [wants, ite_self, never]
      refine ⟨.of_same ((State.freeing_dispose _ s).reading r), ?_⟩
      rintro _ ⟨⟩
      exact ⟨(Bool.or_false _).symm, nofun⟩
  | drop =>
      simp only [wants, ite_self, never]
      exact ⟨.of_same ((State.freeing_schedulePointer s _).reading r), nofun⟩

end Call

end Adapter

-----------------------------------------------------------------------------------------
-- Runs
-----------------------------------------------------------------------------------------

/-- The records of all threads, the world they share, the wrappers of the shared cursor in the order
of making, the values handed out so far, and the wrappers that told of the end.
-/
structure Sharing where
  target : Ref Native.Cursor
  threads : Nat → Thread
  world : World
  adapters : List (Option Adapter) := []
  handed : List Handed := []
  finished : List Nat := []

namespace Sharing

/-- The native side makes a cursor in a world, and nothing wraps it yet. -/
def start (threads : Nat → Thread) (world : World) (elements : List Native.Element) : Sharing :=
  let (target, s) := { world : State }.newCursor { rest := elements }
  { target, threads, world := s.world }

variable (σ : Sharing) (i : Nat)

/-- The state in which a thread runs. -/
def state : State :=
  { thread := σ.threads i, world := σ.world }

/-- A thread changed the state. -/
def putState (s : State) : Sharing :=
  { σ with
    threads := fun j => if j = i then s.thread else σ.threads j
    world := s.world }

/-- The wrapper at a place, unless it ended. -/
def adapter (place : Nat) : Option Adapter :=
  σ.adapters[place]?.join

/-- The elements that are still to come. -/
def left : List Native.Element :=
  (σ.world.cursors.get σ.target).rest

/-- How often the native side was asked for an element. -/
def nextCalls : Nat :=
  (σ.world.cursors.get σ.target).nextCalls

/-- Whether a caller that got so many values from a wrapper of the cursor is the first one to be told
of the end by it.
-/
def tells (place : Nat) (a : Adapter) (c : Adapter.Call) (got : Nat) : Bool :=
  c.tellsEnd got && a.cursor.handle.raw.isSome && place ∉ σ.finished

/-- A thread calls the wrapper at a place. -/
def call (place : Nat) (c : Adapter.Call) : Sharing :=
  match σ.adapter place with
  | some a =>
      let (vs, left, s) := c.run a (σ.state i)
      { σ.putState i s with
        adapters := σ.adapters.set place left
        handed := σ.handed ++ vs.map (⟨place, a.kind, ·⟩)
        finished := σ.finished ++ if σ.tells place a c vs.length then [place] else [] }
  | none => σ

inductive Move
  /-- Makes another wrapper of the shared cursor. -/
  | adopt (k : ElementKind) (own : Bool)
  | call (place : Nat) (c : Adapter.Call)
  | setMainLoop (on : Bool)
  | flush
  | flushTask

/-- What a thread does in one step. -/
def move : Move → Sharing
  | .adopt k own => { σ with adapters := σ.adapters ++ [some ⟨k, .ofRaw (some σ.target) own⟩] }
  | .call place c => σ.call i place c
  | .setMainLoop on => σ.putState i { (σ.state i) with thread.onMainLoop := on }
  | .flush => σ.putState i (σ.state i).flush.2
  | .flushTask => σ.putState i (σ.state i).flushTask.2

def step (σ : Sharing) (e : Nat × Move) : Sharing :=
  σ.move e.1 e.2

def run (σ : Sharing) (es : List (Nat × Move)) : Sharing :=
  es.foldl step σ

/-- The wrapper at a place can still hand out values: it refers to the cursor, and did not tell of
the end.
-/
def Asks (place : Nat) : Prop :=
  place ∉ σ.finished ∧ ∃ a, σ.adapter place = some a ∧ a.cursor.handle.raw ≠ none

instance (place : Nat) : Decidable (σ.Asks place) :=
  match eq : σ.adapter place with
  | some a =>
      decidable_of_iff (place ∉ σ.finished ∧ a.cursor.handle.raw ≠ none)
        ⟨fun ⟨asks, raw⟩ => ⟨asks, a, eq, raw⟩,
          fun ⟨asks, _, found, raw⟩ => ⟨asks, by cases eq.symm.trans found; exact raw⟩⟩
  | none => .isFalse fun ⟨_, _, found, _⟩ => nomatch eq.symm.trans found

variable {σ i}

-----------------------------------------------------------------------------------------
-- The elements in order
-----------------------------------------------------------------------------------------

/-- The values handed out are the elements in order from the start, the others are still to come, and
every native call handed out a value or met the end for a wrapper.
-/
structure InOrder (elements : List Native.Element) (σ : Sharing) : Prop where
  left : σ.left = elements.drop σ.handed.length
  values : List.Forall₂ Handed.Reads σ.handed (elements.take σ.handed.length)
  calls : σ.nextCalls = σ.handed.length + σ.finished.length
  nodup : σ.finished.Nodup
  known : ∀ p ∈ σ.finished, p < σ.adapters.length
  exhausted : ∀ p a, σ.adapter p = some a → (a.cursor.exhausted = true ↔ p ∈ σ.finished)
  target : ∀ p a q, σ.adapter p = some a → a.cursor.handle.raw = some q → q = σ.target

theorem adapter_lt {place : Nat} {a : Adapter} (found : σ.adapter place = some a)
    : place < σ.adapters.length := by
  unfold adapter at found
  by_contra beyond
  rw [List.getElem?_eq_none (Nat.le_of_not_lt beyond)] at found
  contradiction

variable {elements : List Native.Element}

theorem inOrder_start (threads : Nat → Thread) (world : World) (elements : List Native.Element)
    : InOrder elements (start threads world elements) where
  left := congrArg Native.Cursor.rest (world.cursors.get_alloc_self { rest := elements })
  values := .nil
  calls := congrArg Native.Cursor.nextCalls (world.cursors.get_alloc_self { rest := elements })
  nodup := List.nodup_nil
  known := nofun
  exhausted := nofun
  target := nofun

/-- What leaves the cursor alone keeps the order. -/
theorem InOrder.putState (order : InOrder elements σ) {s : State}
    (same : s.reading σ.target = (σ.state i).reading σ.target)
    : InOrder elements (σ.putState i s) where
  left := (congrArg Prod.fst same).trans order.left
  values := order.values
  calls := (congrArg Prod.snd same).trans order.calls
  nodup := order.nodup
  known := order.known
  exhausted := order.exhausted
  target := order.target

/-- The wrapper at a place asks if the one there would ask. -/
theorem InOrder.asks_iff (order : InOrder elements σ) {place : Nat} {a : Adapter}
    (found : σ.adapter place = some a)
    : σ.Asks place ↔ a.cursor.Asks := by
  have flag := order.exhausted place a found
  constructor
  · rintro ⟨asks, b, same, raw⟩
    cases found.symm.trans same
    exact ⟨Bool.eq_false_iff.2 (mt flag.1 asks), raw⟩
  · rintro ⟨asks, raw⟩
    refine ⟨fun told => ?_, a, found, raw⟩
    rw [flag.2 told] at asks
    contradiction

/-- A new wrapper is of the cursor, and did not see the end. -/
theorem InOrder.adopt (order : InOrder elements σ) (k : ElementKind) (own : Bool)
    : InOrder elements (σ.move i (.adopt k own)) := by
  have adapters (p : Nat) (b : Adapter) (found : (σ.move i (.adopt k own)).adapter p = some b)
      : σ.adapter p = some b
        ∨ p = σ.adapters.length ∧ b = ⟨k, .ofRaw (some σ.target) own⟩ := by
    change (σ.adapters ++ [_])[p]?.join = some b at found
    rcases Nat.lt_trichotomy p σ.adapters.length with old | new | beyond
    · rw [List.getElem?_append_left old] at found
      exact .inl found
    · subst new
      rw [List.getElem?_concat_length] at found
      exact .inr ⟨rfl, (Option.some.inj found).symm⟩
    · rw [List.getElem?_eq_none (by simp; omega)] at found
      contradiction
  refine ⟨order.left, order.values, order.calls, order.nodup, ?_, ?_, ?_⟩
  · intro p told
    exact Nat.lt_of_lt_of_le (order.known p told) (by simp [move])
  · intro p b found
    rcases adapters p b found with old | ⟨rfl, rfl⟩
    · exact order.exhausted p b old
    · refine ⟨fun seen => ?_, fun told => ?_⟩
      · exact absurd seen Bool.false_ne_true
      · exact absurd (order.known _ told) (Nat.lt_irrefl _)
  · intro p b q found raw
    rcases adapters p b found with old | ⟨rfl, rfl⟩
    · exact order.target p b q old raw
    · exact (Option.some.inj raw).symm

/-- How many values a call draws from the shared cursor. -/
def draws (σ : Sharing) (place : Nat) (c : Adapter.Call) : Nat :=
  if σ.Asks place then c.wants σ.left.length else 0

/-- What a call on a wrapper did. -/
structure Called (σ : Sharing) (place n : Nat) (a : Adapter) (τ : Sharing) : Prop where
  target : τ.target = σ.target
  left : τ.left = σ.left.drop n
  handed : τ.handed = σ.handed ++ (σ.left.take n).map fun e => ⟨place, a.kind, a.kind.read e⟩
  calls : τ.nextCalls = σ.nextCalls + min n (σ.left.length + 1)
  finished : τ.finished = σ.finished ++ if σ.left.length < n then [place] else []
  adapters : ∃ left,
    τ.adapters = σ.adapters.set place left
    ∧ ∀ b, left = some b → a.Leaves (decide (σ.left.length < n)) b

theorem InOrder.draws_eq (order : InOrder elements σ) {place : Nat} {a : Adapter}
    (found : σ.adapter place = some a) (c : Adapter.Call)
    : c.draws a σ.left.length = σ.draws place c :=
  ite_congr (propext (order.asks_iff found).symm) (fun _ => rfl) (fun _ => rfl)

/-- The end is noted down where a wrapper that asks meets it. -/
theorem InOrder.told_iff (order : InOrder elements σ) {place : Nat} {a : Adapter}
    (found : σ.adapter place = some a) (c : Adapter.Call)
    : σ.tells place a c (min (σ.draws place c) σ.left.length) = true
      ↔ σ.left.length < σ.draws place c := by
  unfold draws tells
  by_cases asks : σ.Asks place
  · rw [if_pos asks, c.tellsEnd_min, Option.isSome_iff_ne_none.2 ((order.asks_iff found).1 asks).2,
      decide_eq_true asks.1, Bool.and_true, Bool.and_true, decide_eq_true_iff]
  · rw [if_neg asks]
    refine ⟨fun told => ?_, nofun⟩
    simp only [Bool.and_eq_true, decide_eq_true_eq] at told
    exact absurd ⟨told.2, a, found, Option.isSome_iff_ne_none.1 told.1.2⟩ asks

/-- A call hands out the first of the values that are left, as many as it draws. -/
theorem InOrder.called (order : InOrder elements σ) {place : Nat} {a : Adapter}
    (found : σ.adapter place = some a) (c : Adapter.Call)
    : (c.run a (σ.state i)).1 = (σ.left.take (σ.draws place c)).map a.kind.read
      ∧ σ.Called place (σ.draws place c) a (σ.call i place c) := by
  obtain ⟨draws, leaves⟩ := c.draws_run (order.target place a · found) (σ.state i)
  have told := order.told_iff found c
  change State.Draws σ.target (c.draws a σ.left.length) _ _ _ at draws
  change ∀ b, _ → a.Leaves (decide (σ.left.length < c.draws a σ.left.length)) b at leaves
  rw [order.draws_eq found] at draws leaves
  have values : (c.run a (σ.state i)).1 = (σ.left.take (σ.draws place c)).map a.kind.read :=
    draws.values
  have got : (c.run a (σ.state i)).1.length = min (σ.draws place c) σ.left.length := by
    rw [values, List.length_map, List.length_take]
  refine ⟨values, ?_⟩
  unfold call
  rw [found]
  refine ⟨rfl, draws.rest, ?_, draws.calls, ?_, _, rfl, leaves⟩
  · show σ.handed ++ (c.run a (σ.state i)).1.map _ = _
    rw [values, List.map_map]
    rfl
  · show σ.finished ++ (if σ.tells place a c (c.run a (σ.state i)).1.length then _ else _) = _
    rw [got]
    simp only [told]

theorem adapter_set {place : Nat} {a : Adapter} (found : σ.adapter place = some a)
    {τ : Sharing} {slot : Option Adapter} (set : τ.adapters = σ.adapters.set place slot)
    {p : Nat} {b : Adapter} (present : τ.adapter p = some b)
    : p = place ∧ slot = some b ∨ p ≠ place ∧ σ.adapter p = some b := by
  unfold adapter at present
  rw [set] at present
  by_cases here : p = place
  · subst here
    rw [List.getElem?_set_self (adapter_lt found)] at present
    exact .inl ⟨rfl, present⟩
  · rw [List.getElem?_set_ne (Ne.symm here)] at present
    exact .inr ⟨here, present⟩

theorem InOrder.of_called (order : InOrder elements σ) {place n : Nat} {a : Adapter} {τ : Sharing}
    (found : σ.adapter place = some a) (asks : σ.left.length < n → σ.Asks place)
    (called : σ.Called place n a τ)
    : InOrder elements τ := by
  obtain ⟨slot, set, leaves⟩ := called.adapters
  have handed : τ.handed.length = σ.handed.length + min n σ.left.length := by
    rw [called.handed, List.length_append, List.length_map, List.length_take]
  have left : σ.left = elements.drop σ.handed.length := order.left
  have count : σ.left.length = elements.length - σ.handed.length := by
    rw [left, List.length_drop]
  refine ⟨?_, ?_, ?_, ?_, ?_, ?_, ?_⟩
  · rw [called.left, left, List.drop_drop, handed]
    apply List.drop_eq_drop_iff.2
    omega
  · rw [handed, List.take_add, ← left, called.handed]
    refine List.rel_append order.values ?_
    rw [← List.take_eq_take_min, List.forall₂_map_left_iff, List.forall₂_same]
    exact fun _ _ => rfl
  · rw [called.calls, order.calls, handed, called.finished]
    split <;> simp <;> omega
  · rw [called.finished]
    split
    · next met =>
        have new : place ∉ σ.finished := (asks met).1
        refine List.nodup_append.2 ⟨order.nodup, List.pairwise_singleton _ _, ?_⟩
        rintro p told _ here rfl
        exact new (List.mem_singleton.1 here ▸ told)
    · simpa using order.nodup
  · intro p told
    rw [set, List.length_set]
    rw [called.finished, List.mem_append] at told
    rcases told with old | new
    · exact order.known p old
    · split at new
      · rw [List.mem_singleton.1 new]
        exact adapter_lt found
      · contradiction
  · intro p b present
    rcases adapter_set found set present with ⟨rfl, kept⟩ | ⟨other, old⟩
    · rw [(leaves b kept).exhausted, Bool.or_eq_true, order.exhausted p a found, called.finished]
      simp
    · rw [order.exhausted p b old, called.finished]
      split <;> simp [other]
  · intro p b q present raw
    rw [called.target]
    rcases adapter_set found set present with ⟨rfl, kept⟩ | ⟨other, old⟩
    · exact order.target p a q found ((leaves b kept).raw q raw)
    · exact order.target p b q old raw

theorem InOrder.call (order : InOrder elements σ) (place : Nat) (c : Adapter.Call)
    : InOrder elements (σ.call i place c) := by
  cases found : σ.adapter place with
  | none =>
      unfold Sharing.call
      rw [found]
      exact order
  | some a =>
      refine order.of_called found ?_ (order.called found c).2
      unfold draws
      split
      · exact fun _ => ‹_›
      · nofun

theorem InOrder.step (order : InOrder elements σ) (e : Nat × Move)
    : InOrder elements (σ.step e) := by
  obtain ⟨i, m⟩ := e
  cases m with
  | adopt k own => exact order.adopt k own
  | call place c => exact order.call place c
  | setMainLoop on => exact order.putState (i := i) rfl
  | flush | flushTask => exact order.putState ((State.freeing_flush _).reading _)

theorem InOrder.run (order : InOrder elements σ) (es : List (Nat × Move))
    : InOrder elements (σ.run es) := by
  induction es generalizing σ with
  | nil => exact order
  | cons e rest ih => exact ih (order.step e)

-----------------------------------------------------------------------------------------
-- What comes later
-----------------------------------------------------------------------------------------

/-- What later states keep: the wrappers there were, which of them do not ask any more, and that
nothing is left.
-/
structure Later (σ τ : Sharing) : Prop where
  made : σ.adapters.length ≤ τ.adapters.length
  asked : ∀ p, p < σ.adapters.length → τ.Asks p → σ.Asks p
  empty : σ.left = [] → τ.left = [] ∧ τ.handed = σ.handed

theorem Later.refl (σ : Sharing)
    : σ.Later σ :=
  ⟨Nat.le_refl _, fun _ _ => id, fun empty => ⟨empty, rfl⟩⟩

theorem Later.trans {τ υ : Sharing} (first : σ.Later τ) (second : τ.Later υ)
    : σ.Later υ where
  made := Nat.le_trans first.made second.made
  asked p made := first.asked p made ∘ second.asked p (Nat.lt_of_lt_of_le made first.made)
  empty none := by
    obtain ⟨left, handed⟩ := first.empty none
    obtain ⟨leftNow, handedNow⟩ := second.empty left
    exact ⟨leftNow, handedNow.trans handed⟩

theorem later_putState {s : State} (same : s.reading σ.target = (σ.state i).reading σ.target)
    : σ.Later (σ.putState i s) where
  made := Nat.le_refl _
  asked _ _ := id
  empty none := ⟨(congrArg Prod.fst same).trans none, rfl⟩

theorem later_adopt (σ : Sharing) (i : Nat) (k : ElementKind) (own : Bool)
    : σ.Later (σ.move i (.adopt k own)) where
  made := by simp [move]
  asked p made asks := by
    obtain ⟨untold, a, found, raw⟩ := asks
    change (σ.adapters ++ [_])[p]?.join = some a at found
    rw [List.getElem?_append_left made] at found
    exact ⟨untold, a, found, raw⟩
  empty none := ⟨none, rfl⟩

theorem Called.later {place n : Nat} {a : Adapter} {τ : Sharing}
    (found : σ.adapter place = some a) (called : σ.Called place n a τ)
    : σ.Later τ := by
  obtain ⟨slot, set, leaves⟩ := called.adapters
  refine ⟨?_, ?_, ?_⟩
  · have same : τ.adapters.length = σ.adapters.length := by rw [set, List.length_set]
    exact Nat.le_of_eq same.symm
  · rintro p - ⟨untold, b, present, raw⟩
    rw [called.finished, List.mem_append, not_or] at untold
    refine ⟨untold.1, ?_⟩
    rcases adapter_set found set present with ⟨rfl, kept⟩ | ⟨-, old⟩
    · obtain ⟨q, has⟩ := Option.ne_none_iff_exists'.1 raw
      refine ⟨a, found, ?_⟩
      rw [(leaves b kept).raw q has]
      exact Option.some_ne_none q
    · exact ⟨b, old, raw⟩
  · intro none
    rw [called.left, called.handed, none]
    simp

theorem InOrder.later_step (order : InOrder elements σ) (e : Nat × Move)
    : σ.Later (σ.step e) := by
  obtain ⟨i, m⟩ := e
  cases m with
  | adopt k own => exact later_adopt σ i k own
  | call place c =>
      show σ.Later (σ.call i place c)
      cases found : σ.adapter place with
      | none =>
          unfold Sharing.call
          rw [found]
          exact .refl σ
      | some a => exact (order.called found c).2.later found
  | setMainLoop on => exact later_putState (i := i) rfl
  | flush | flushTask => exact later_putState ((State.freeing_flush _).reading _)

theorem InOrder.later_run (order : InOrder elements σ) (es : List (Nat × Move))
    : σ.Later (σ.run es) := by
  induction es generalizing σ with
  | nil => exact .refl σ
  | cons e rest ih => exact (order.later_step e).trans (ih (order.step e))

/-- A wrapper that gave its cursor up does not ask. -/
theorem silent_of_gaveUp {place : Nat} {a : Adapter} {c : Adapter.Call}
    (found : σ.adapter place = some a) (gaveUp : c = .release ∨ c = .dispose)
    : ¬ (σ.call i place c).Asks place := by
  rintro ⟨-, b, present, raw⟩
  unfold Sharing.call at present
  rw [found] at present
  rcases gaveUp with rfl | rfl <;>
    rcases adapter_set found rfl present with ⟨-, ⟨⟩⟩ | ⟨other, -⟩ <;>
    contradiction

-----------------------------------------------------------------------------------------
-- The main result
-----------------------------------------------------------------------------------------

/-- However threads make, use and end wrappers of one native cursor, the values that they get are its
elements in order from the start, each of them once, and the native calls are one for each value and
one for each wrapper that told of the end. A call gets the next values there are, as many as it wants,
if its wrapper refers to the cursor and did not tell of the end; if not, it gets nothing and calls
nothing. Such a wrapper stays so, and where nothing is left no wrapper ever gets a value.
-/
theorem elements_handed_out_once (threads : Nat → Thread) (world : World)
    (elements : List Native.Element) (es : List (Nat × Move))
    : let σ := (start threads world elements).run es
      σ.left = elements.drop σ.handed.length
      ∧ List.Forall₂ Handed.Reads σ.handed (elements.take σ.handed.length)
      ∧ σ.nextCalls = σ.handed.length + σ.finished.length
      ∧ σ.finished.Nodup
      ∧ (∀ i place a c,
          σ.adapter place = some a
          → let n := if σ.Asks place then c.wants σ.left.length else 0
            (c.run a (σ.state i)).1 = (σ.left.take n).map a.kind.read
            ∧ (σ.call i place c).nextCalls = σ.nextCalls + min n (σ.left.length + 1)
            ∧ (place ∈ (σ.call i place c).finished ↔ place ∈ σ.finished ∨ σ.left.length < n)
            ∧ (c = .release ∨ c = .dispose → ¬ (σ.call i place c).Asks place))
      ∧ (∀ place,
          place < σ.adapters.length
          → ¬ σ.Asks place
          → ∀ fs, ¬ (σ.run fs).Asks place)
      ∧ (σ.left = [] → ∀ fs, (σ.run fs).handed = σ.handed) := by
  have order := (inOrder_start threads world elements).run es
  refine ⟨order.left, order.values, order.calls, order.nodup, ?_, ?_, ?_⟩
  · intro i place a c found
    obtain ⟨values, called⟩ := order.called (i := i) found c
    refine ⟨values, called.calls, ?_, silent_of_gaveUp found⟩
    rw [called.finished, List.mem_append]
    apply or_congr_right
    unfold draws
    split <;> split <;> simp_all
  · intro place made silent fs
    exact mt ((order.later_run fs).asked place made) silent
  · intro none fs
    exact ((order.later_run fs).empty none).2

/-- Two wrappers take turns at three elements and both meet the end; then a third one is made. -/
def taking : List (Nat × Move) :=
  [(0, .adopt .uint8 true), (1, .adopt .flag false), (0, .call 0 .next), (1, .call 1 (.take 1)),
    (0, .call 0 (.take 2)), (1, .call 1 .collect), (0, .adopt .uint8 false)]

theorem taking_elements_handed_out_once
    : let σ := (start (fun _ => {}) {} [.memory [7], .memory [1], .null]).run taking
      σ.handed.map Handed.place = [0, 1, 0]
      ∧ σ.finished = [0, 1]
      ∧ σ.nextCalls = 5
      ∧ (Adapter.Call.next.run ⟨.uint8, .ofRaw (some σ.target) false⟩ (σ.state 0)).1 = []
      ∧ (σ.call 0 2 .next).nextCalls = 6
      ∧ ¬ (σ.call 0 2 .dispose).Asks 2
      ∧ ∀ fs, ¬ (σ.run fs).Asks 0 ∧ (σ.run fs).handed = σ.handed := by
  obtain ⟨-, -, -, -, calls, silent, empty⟩ := elements_handed_out_once (fun _ => {}) {}
    [.memory [7], .memory [1], .null] taking
  obtain ⟨values, asked, -, -⟩ := calls 0 2 _ .next rfl
  obtain ⟨-, -, -, gaveUp⟩ := calls 0 2 _ .dispose rfl
  refine ⟨by decide, by decide, by decide, values, asked, gaveUp (.inr rfl), fun fs => ?_⟩
  exact ⟨silent 0 (by decide) (by decide) fs, empty (by decide) fs⟩

end Sharing

end Custody
