import Custody.Cursor
import Custody.Proofs.Updates.Freeing

/-! What a wrapper draws from its native cursor: the first of the values that are still to come, as
many as are asked for, with one native call for each and one more where the end is met.
-/

namespace Custody

namespace State

/-- The elements that a native cursor still has, and how often it was asked for one. -/
def reading (s : State) (r : Ref Native.Cursor) : List Native.Element × Nat :=
  ((s.cursor r).rest, (s.cursor r).nextCalls)

/-- From the first state to the second a native cursor was asked for `n` values. -/
structure Draws (r : Ref Native.Cursor) {k : ElementKind} (n : Nat) (vs : List k.Carrier)
    (s t : State)
    : Prop where
  values : vs = ((s.reading r).1.take n).map k.read
  rest : (t.reading r).1 = (s.reading r).1.drop n
  calls : (t.reading r).2 = (s.reading r).2 + min n ((s.reading r).1.length + 1)

variable {s t u : State} {r : Ref Native.Cursor} {k : ElementKind}

/-- What leaves the native cursor alone draws nothing. -/
theorem Draws.of_same (same : t.reading r = s.reading r)
    : s.Draws r 0 ([] : List k.Carrier) t where
  values := by rw [List.take_zero]; rfl
  rest := by rw [same]; rfl
  calls := by rw [same, Nat.zero_min]; rfl

/-- What comes after a draw and leaves the native cursor alone. -/
theorem Draws.before {n : Nat} {vs : List k.Carrier} (draws : s.Draws r n vs t)
    (same : u.reading r = t.reading r)
    : s.Draws r n vs u where
  values := draws.values
  rest := by rw [same]; exact draws.rest
  calls := by rw [same]; exact draws.calls

/-- Asking for an element hands out the first one there is, or tells of the end. -/
theorem nextElement_eq (s : State) (r : Ref Native.Cursor)
    : (s.nextElement r).1 = (s.reading r).1.head?
      ∧ (s.nextElement r).2.reading r = ((s.reading r).1.tail, (s.reading r).2 + 1) := by
  have shown (c : Native.Cursor) : (s.setCursor r c).cursor r = c :=
    s.world.cursors.get_put_self r c
  unfold nextElement reading
  dsimp only
  cases left : (s.cursor r).rest with
  | nil =>
      refine ⟨rfl, ?_⟩
      dsimp only
      rw [shown]
      rfl
  | cons e rest =>
      refine ⟨rfl, ?_⟩
      dsimp only
      rw [shown]
      rfl

-----------------------------------------------------------------------------------------
-- Frees leave the elements alone
-----------------------------------------------------------------------------------------

theorem reading_free (s : State) (h : NativeHandle) (r : Ref Native.Cursor)
    : (s.free h).reading r = s.reading r := by
  cases h with
  | buffer | message => rfl
  | cursor q =>
      exact s.world.cursors.keeps_put (a := { s.cursor q with frees := (s.cursor q).frees + 1 })
        (f := fun c => (c.rest, c.nextCalls)) rfl r

/-- By induction on the frees. -/
theorem Freeing.reading (frees : s.Freeing t) (r : Ref Native.Cursor)
    : t.reading r = s.reading r := by
  induction frees with
  | refl => rfl
  | trans _ _ first second => exact second.trans first
  | free s h => exact reading_free s h r
  | waiting same =>
      rw [same]
      rfl

end State

-----------------------------------------------------------------------------------------
-- Wrappers
-----------------------------------------------------------------------------------------

namespace Cursor

variable {k : ElementKind} {c : Cursor k} {r : Ref Native.Cursor}

/-- The wrapper still asks its native cursor: it has one, and did not see the end. -/
def Asks (c : Cursor k) : Prop :=
  c.exhausted = false ∧ c.handle.raw ≠ none

instance (c : Cursor k) : Decidable c.Asks :=
  inferInstanceAs (Decidable (_ ∧ _))

theorem Asks.raw_eq (asks : c.Asks) (only : ∀ q, c.handle.raw = some q → q = r)
    : c.handle.raw = some r := by
  cases raw : c.handle.raw with
  | none => exact absurd raw asks.2
  | some q => rw [only q raw]

theorem next_of_not_asks (silent : ¬ c.Asks) (s : State)
    : c.next s = (none, c, s) := by
  unfold next
  split
  · rfl
  · next notExhausted =>
      cases raw : c.handle.raw with
      | none => rfl
      | some q => exact absurd ⟨Bool.not_eq_true _ ▸ notExhausted, by simp [raw]⟩ silent

theorem take_of_not_asks (silent : ¬ c.Asks) (n : Nat) (s : State)
    : take n c s = ([], c, s) := by
  cases n with
  | zero => rfl
  | succ n => rw [take, next_of_not_asks silent]

/-- A wrapper that asks gets the first element there is, or sees the end and notes it down. -/
theorem next_of_asks (asks : c.Asks) (raw : c.handle.raw = some r) (s : State)
    : (c.next s).1 = (s.reading r).1.head?.map k.read
      ∧ (c.next s).2.1 = { c with exhausted := (s.reading r).1.isEmpty }
      ∧ (c.next s).2.2.reading r = ((s.reading r).1.tail, (s.reading r).2 + 1) := by
  obtain ⟨handed, left⟩ := s.nextElement_eq r
  have same : c = { c with exhausted := false } := by
    obtain ⟨handle, exhausted⟩ := c
    exact congrArg (Cursor.mk handle) asks.1
  unfold next
  rw [asks.1, if_neg Bool.false_ne_true, raw]
  dsimp only
  generalize s.nextElement r = asked at handed left
  obtain ⟨element, t⟩ := asked
  dsimp only at handed left
  subst handed
  cases rest : (s.reading r).1 with
  | nil =>
      rw [rest] at left
      exact ⟨rfl, rfl, left⟩
  | cons e es =>
      rw [rest] at left
      exact ⟨rfl, same, left⟩

/-- A wrapper that asks for `n` values draws them, and sees the end if there are fewer; by induction
on their number.
-/
theorem draws_take (asks : c.Asks) (raw : c.handle.raw = some r) (n : Nat) (s : State)
    : s.Draws r n (take n c s).1 (take n c s).2.2
      ∧ (take n c s).2.1 = { c with exhausted := decide ((s.reading r).1.length < n) } := by
  have same : { c with exhausted := false } = c := by
    obtain ⟨handle, exhausted⟩ := c
    exact congrArg (Cursor.mk handle) asks.1.symm
  induction n generalizing s with
  | zero => exact ⟨.of_same rfl, same.symm⟩
  | succ n ih =>
      obtain ⟨value, left, after⟩ := next_of_asks asks raw s
      unfold take
      generalize c.next s = asked at value left after
      obtain ⟨answer, d, t⟩ := asked
      dsimp only at value left after ⊢
      subst value left
      cases rest : (s.reading r).1 with
      | nil =>
          dsimp only [List.head?_nil, Option.map_none]
          refine ⟨⟨?_, ?_, ?_⟩, ?_⟩
          · rw [rest]
            rfl
          · rw [after, rest]
            rfl
          · rw [after, rest]
            dsimp only [List.length_nil]
            omega
          · simp
      | cons e es =>
          simp only [List.head?_cons, Option.map_some, List.isEmpty_cons, same]
          have tail : (t.reading r).1 = es := by rw [after, rest]; rfl
          obtain ⟨more, last⟩ := ih t
          refine ⟨⟨?_, ?_, ?_⟩, ?_⟩
          · rw [more.values, rest, tail]
            rfl
          · rw [more.rest, rest, tail]
            rfl
          · rw [more.calls, tail, rest, after, List.length_cons]
            dsimp only
            omega
          · rw [last, tail, List.length_cons]
            simp only [Nat.add_lt_add_iff_right]

/-- Asking for values keeps what the wrapper refers to. -/
theorem draws_next (asks : c.Asks) (raw : c.handle.raw = some r) (s : State)
    : s.Draws r 1 (c.next s).1.toList (c.next s).2.2 := by
  obtain ⟨value, -, after⟩ := next_of_asks asks raw s
  refine ⟨?_, ?_, ?_⟩
  · rw [value]
    cases (s.reading r).1 <;> rfl
  · rw [after, List.drop_one]
  · rw [after]
    dsimp only
    omega

/-- A wrapper that asks and is emptied draws all there is, and meets the end. -/
theorem draws_collect (asks : c.Asks) (raw : c.handle.raw = some r) (s : State)
    : s.Draws r ((s.reading r).1.length + 1) (c.collect s).1 (c.collect s).2 := by
  obtain ⟨draws, -⟩ := draws_take asks raw (c.remaining s + 1) s
  have all : c.remaining s = (s.reading r).1.length := by
    rw [remaining, raw]
    rfl
  unfold collect
  rw [all] at draws ⊢
  exact draws.before (State.Freeing.reading (State.freeing_schedulePointer _ _) r)

end Cursor

end Custody
