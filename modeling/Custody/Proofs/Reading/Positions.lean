import Custody.Proofs.Buffers.Frame
import Custody.Proofs.Reading.Steps

/-! The positions that readers of one message can reach, whatever they read and in whatever order.
A read moves one position onward, or makes one inside an array, and leaves all else on the bus.
-/

namespace Custody

/-- From the values of the first body, reads can come to those of the second: past a value, and
into an array.
-/
inductive Body.Onward : Body → Body → Prop
  | here (b : Body) : Onward b b
  | pastScalar {code value rest b} (more : Onward rest b) : Onward (.scalar code value rest) b
  | pastContainer {code items rest b} (more : Onward rest b)
    : Onward (.container code items rest) b
  | inside {items rest b} (more : Onward items b) : Onward (.container 'a' items rest) b
  | insideBlock {value rest b} (more : Onward (Native.BodyCursor.ofScalar value).rest b)
    : Onward (.scalar 'a' value rest) b

namespace Body

theorem Onward.trans {a b c : Body} (first : Onward a b) (second : Onward b c)
    : Onward a c := by
  induction first with
  | here => exact second
  | pastScalar _ ih => exact .pastScalar (ih second)
  | pastContainer _ ih => exact .pastContainer (ih second)
  | inside _ ih => exact .inside (ih second)
  | insideBlock _ ih => exact .insideBlock (ih second)

theorem wellCoded_ofScalar (value : Scalar)
    : (Native.BodyCursor.ofScalar value).rest.wellCoded = true := by
  cases value <;> rfl

/-- Reads never come to a code that is no letter, by induction on the way. -/
theorem Onward.wellCoded {a b : Body} (way : Onward a b) (coded : a.wellCoded = true)
    : b.wellCoded = true := by
  induction way with
  | here => exact coded
  | pastScalar _ ih =>
      simp only [Body.wellCoded, Bool.and_eq_true] at coded
      exact ih coded.2
  | pastContainer _ ih =>
      simp only [Body.wellCoded, Bool.and_eq_true] at coded
      exact ih coded.2
  | inside _ ih =>
      simp only [Body.wellCoded, Bool.and_eq_true] at coded
      exact ih coded.1.2
  | @insideBlock value _ _ _ ih => exact ih (wellCoded_ofScalar value)

end Body

/-- The second state is the first after reads at one position: that position went onward or stayed,
and neither a message nor another position changed.
-/
structure State.ReadAt (r : Ref Native.BodyCursor) (s t : State) : Prop where
  unplanned : s.Unplanned → t.Unplanned
  calm : s.thread.Calm → t.thread.Calm
  message : ∀ m, t.message m = s.message m
  count : s.cursorCount ≤ t.cursorCount
  moved : r.index < s.cursorCount → (s.bodyCursor r).rest.Onward (t.bodyCursor r).rest
  others
    : ∀ q : Ref Native.BodyCursor,
        q.index < s.cursorCount → q ≠ r → t.bodyCursor q = s.bodyCursor q

namespace State

variable {s t u : State} {r : Ref Native.BodyCursor} {rest : Body}

theorem ReadAt.refl (r : Ref Native.BodyCursor) (s : State)
    : ReadAt r s s where
  unplanned := id
  calm := id
  message _ := rfl
  count := Nat.le_refl _
  moved _ := .here _
  others _ _ _ := rfl

theorem ReadAt.trans (first : ReadAt r s t) (second : ReadAt r t u)
    : ReadAt r s u where
  unplanned := second.unplanned ∘ first.unplanned
  calm := second.calm ∘ first.calm
  message m := (second.message m).trans (first.message m)
  count := Nat.le_trans first.count second.count
  moved old :=
    (first.moved old).trans (second.moved (Nat.lt_of_lt_of_le old first.count))
  others q old ne :=
    (second.others q (Nat.lt_of_lt_of_le old first.count) ne).trans (first.others q old ne)

/-- Reads at a position that was not there do not count. -/
theorem ReadAt.aside (first : ReadAt r s t) {q : Ref Native.BodyCursor} (second : ReadAt q t u)
    (new : s.cursorCount ≤ q.index)
    : ReadAt r s u where
  unplanned := second.unplanned ∘ first.unplanned
  calm := second.calm ∘ first.calm
  message m := (second.message m).trans (first.message m)
  count := Nat.le_trans first.count second.count
  moved old := by
    have apart : r ≠ q := by
      rintro rfl
      exact Nat.not_lt.2 new old
    rw [second.others r (Nat.lt_of_lt_of_le old first.count) apart]
    exact first.moved old
  others p old ne := by
    have apart : p ≠ q := by
      rintro rfl
      exact Nat.not_lt.2 new old
    rw [second.others p (Nat.lt_of_lt_of_le old first.count) apart, first.others p old ne]

/-- Every position went onward or stayed. -/
theorem ReadAt.onward (done : ReadAt r s t) {q : Ref Native.BodyCursor}
    (old : q.index < s.cursorCount)
    : (s.bodyCursor q).rest.Onward (t.bodyCursor q).rest := by
  by_cases same : q = r
  · subst q
    exact done.moved old
  · rw [done.others q old same]
    exact .here _

theorem ReadAt.moveTo (old : r.index < s.cursorCount) (way : (s.bodyCursor r).rest.Onward rest)
    : ReadAt r s (s.moveTo r rest) where
  unplanned := id
  calm := id
  message _ := rfl
  count := Nat.le_of_eq (cursorCount_moveTo s rest old).symm
  moved _ := by
    rw [rest_moveTo]
    exact way
  others q _ ne := bodyCursor_moveTo_of_ne s rest ne

theorem ReadAt.newBodyCursor (done : ReadAt r s t) (c : Native.BodyCursor)
    : ReadAt r s (t.newBodyCursor c).2 where
  unplanned := done.unplanned
  calm := done.calm
  message := done.message
  count := by
    rw [cursorCount_newBodyCursor]
    exact Nat.le_succ_of_le done.count
  moved old := by
    rw [bodyCursor_newBodyCursor_of_old t c (Nat.lt_of_lt_of_le old done.count)]
    exact done.moved old
  others q old ne := by
    rw [bodyCursor_newBodyCursor_of_old t c (Nat.lt_of_lt_of_le old done.count)]
    exact done.others q old ne

/-- Where an array was entered, its reader is past it. -/
theorem rest_entered (old : r.index < s.cursorCount) (inside : Native.BodyCursor)
    : (((s.moveTo r rest).newBodyCursor inside).2.bodyCursor r).rest = rest := by
  have oldNow : r.index < (s.moveTo r rest).cursorCount := by
    rw [cursorCount_moveTo s rest old]
    exact old
  rw [bodyCursor_newBodyCursor_of_old _ inside oldNow, rest_moveTo]

/-- Reading a slot under a code other than that of an array moves its own position, if any. -/
theorem readAt_readSlot {code : Char} (unplanned : s.Unplanned) (old : r.index < s.cursorCount)
    (notArray : code ≠ 'a')
    : ReadAt r s (s.readSlot r code).2 := by
  by_cases other : (s.bodyCursor r).rest.code? = some code
  · cases next : (s.bodyCursor r).rest with
    | empty => simp [next, Body.code?] at other
    | scalar found value rest =>
        obtain rfl : found = code := by simpa [next, Body.code?] using other
        rw [readSlot_scalar unplanned notArray next]
        exact .moveTo old (next ▸ .pastScalar (.here _))
    | container found items rest =>
        obtain rfl : found = code := by simpa [next, Body.code?] using other
        rw [readSlot_container unplanned notArray next]
        exact .moveTo old (next ▸ .pastContainer (.here _))
  · rw [readSlot_other unplanned other]
    exact .refl r s

theorem ReadAt.of_sameBus (same : s.SameBus t)
    : ReadAt r s t where
  unplanned unplanned := same.planned.trans unplanned
  calm := same.calm
  message m := by rw [State.message, State.message, same.messages]
  count := Nat.le_of_eq (congrArg Heap.size same.bodyCursors).symm
  moved _ := by
    rw [State.bodyCursor, State.bodyCursor, same.bodyCursors]
    exact .here _
  others q _ _ := by rw [State.bodyCursor, State.bodyCursor, same.bodyCursors]

end State

/-- A new reader of a message stands at its first value. -/
theorem Message.cursor_stands {m : Message} {s : State} {r : Ref Native.Message}
    (unplanned : s.Unplanned) (raw : m.raw = some r)
    : ∃ q t,
        m.cursor s = (.ok ⟨some q⟩, t)
        ∧ State.ReadAt q s t
        ∧ q.index < t.cursorCount
        ∧ (t.bodyCursor q).rest = (s.message r).body := by
  have made := cursor_eq unplanned raw
  refine ⟨_, _, made, (State.ReadAt.refl _ s).newBodyCursor _, ?_, ?_⟩
  · exact s.lt_cursorCount_newBodyCursor _
  · rw [State.bodyCursor_newBodyCursor_self]

end Custody
