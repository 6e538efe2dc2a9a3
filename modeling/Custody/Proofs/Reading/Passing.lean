import Custody.Proofs.Reading.Positions

/-! Going past values without looking at them: a basic value is read, an array is entered and its
reader forgotten.
-/

namespace Custody

/-- Whether every value is an array, or a basic value that fits its code. -/
def Body.readable : Body → Bool
  | .empty => true
  | .scalar code value rest => (code = 'a' || (value.slot? code).isSome) && rest.readable
  | .container code items rest => code = 'a' && items.wellCoded && rest.readable

/-- Goes past the next value. -/
def BodyCursor.pass (c : BodyCursor) (s : State) : Attempt BusError Unit :=
  match c.currentType s with
  | (some .array, s) => (c.readArray s).andThen fun _ s => (.ok (), s)
  | (_, s) => (c.read s).andThen fun _ s => (.ok (), s)

/-- Goes past the next `n` values. -/
def BodyCursor.passMany : Nat → BodyCursor → State → Attempt BusError Unit
  | 0, _, s => (.ok (), s)
  | n + 1, c, s => (c.pass s).andThen fun _ s => passMany n c s

theorem Scalar.basic_of_ofWord {code : Char} {bits : UInt64}
    (filled : (slot?.ofWord code bits).isSome = true)
    : ∃ t a,
        code = ArgumentType.code t
        ∧ t.isBasic = true
        ∧ (slot?.ofWord code bits).bind (Argument.ofSlot? t) = some a := by
  by_cases flag : code = 'b'
  · subst code
    exact ⟨.boolean, _, rfl, rfl, rfl⟩
  · by_cases letter : code ∈ ['y', 'n', 'q', 'i', 'h', 'u', 'x', 't']
    · simp only [List.mem_cons, List.not_mem_nil, or_false] at letter
      rcases letter with rfl | rfl | rfl | rfl | rfl | rfl | rfl | rfl
      · exact ⟨.byte, _, rfl, rfl, rfl⟩
      · exact ⟨.int16, _, rfl, rfl, rfl⟩
      · exact ⟨.uint16, _, rfl, rfl, rfl⟩
      · exact ⟨.int32, _, rfl, rfl, rfl⟩
      · exact ⟨.unixFd, _, rfl, rfl, rfl⟩
      · exact ⟨.uint32, _, rfl, rfl, rfl⟩
      · exact ⟨.int64, _, rfl, rfl, rfl⟩
      · exact ⟨.uint64, _, rfl, rfl, rfl⟩
    · simp [slot?.ofWord, flag, letter] at filled

/-- A slot is filled under the letters of basic types alone, and then it makes a value. -/
theorem Scalar.basic_of_slot? {code : Char} {value : Scalar}
    (filled : (value.slot? code).isSome = true)
    : ∃ t a,
        code = ArgumentType.code t
        ∧ t.isBasic = true
        ∧ (value.slot? code).bind (Argument.ofSlot? t) = some a := by
  cases value with
  | bytes block => simp [slot?] at filled
  | int value => exact basic_of_ofWord filled
  | uint value => exact basic_of_ofWord filled
  | double value =>
      by_cases letter : code = 'd'
      · subst code
        exact ⟨.double, _, rfl, rfl, rfl⟩
      · simp [slot?, letter] at filled
  | text value =>
      by_cases letter : code ∈ ['s', 'o', 'g']
      · simp only [List.mem_cons, List.not_mem_nil, or_false] at letter
        rcases letter with rfl | rfl | rfl
        · exact ⟨.string, _, rfl, rfl, rfl⟩
        · exact ⟨.objectPath, _, rfl, rfl, rfl⟩
        · exact ⟨.signature, _, rfl, rfl, rfl⟩
      · simp [slot?, letter] at filled

/-- Values that reads can pass have letters. -/
theorem Body.wellCoded_of_readable {b : Body} (fit : b.readable = true)
    : b.wellCoded = true := by
  induction b with
  | empty => rfl
  | scalar code value rest ih =>
      simp only [readable, Bool.and_eq_true, Bool.or_eq_true, decide_eq_true_eq] at fit
      obtain ⟨array | filled, tail⟩ := fit
      · subst code
        exact ih tail
      · obtain ⟨t, a, rfl, _, _⟩ := Scalar.basic_of_slot? filled
        simp [wellCoded, ih tail]
  | container code items rest _ ih =>
      simp only [readable, Bool.and_eq_true, decide_eq_true_eq] at fit
      obtain ⟨⟨rfl, inside⟩, tail⟩ := fit
      simp only [wellCoded, inside, ih tail]
      rfl

theorem Body.wellCoded_append {a b : Body} (first : a.wellCoded = true) (second : b.wellCoded = true)
    : (a ++ b).wellCoded = true := by
  induction a with
  | empty => exact second
  | scalar code value rest ih =>
      simp only [wellCoded, Bool.and_eq_true] at first
      simp [wellCoded, first.1, ih first.2]
  | container code items rest _ ih =>
      simp only [wellCoded, Bool.and_eq_true] at first
      simp [wellCoded, first.1.1, first.1.2, ih first.2]

namespace BodyCursor

variable {s : State} {r : Ref Native.BodyCursor} {rest : Body}

/-- A basic value is passed by reading it. -/
theorem pass_basic {code : Char} {value : Scalar} (unplanned : s.Unplanned)
    (next : (s.bodyCursor r).rest = .scalar code value rest)
    (coded : (Body.scalar code value rest).wellCoded = true)
    (filled : (value.slot? code).isSome = true)
    : BodyCursor.pass ⟨some r⟩ s = (.ok (), s.moveTo r rest) := by
  obtain ⟨t, a, rfl, basic, found⟩ := Scalar.basic_of_slot? filled
  have notArray : t ≠ .array := by
    rintro rfl
    exact Bool.noConfusion basic
  have told : (Body.scalar t.code value rest).toldType = some t := Body.toldType_of_code? rfl rfl
  have read := read_basic unplanned next coded basic found
  rw [pass, currentType_eq unplanned next coded, told]
  split
  · next same => simp_all
  · next same =>
      obtain rfl : s = _ := (Prod.mk.inj same).2
      rw [read]
      rfl

/-- An array is passed by entering it, whatever it holds. -/
theorem pass_array {inside : Native.BodyCursor} (unplanned : s.Unplanned)
    (coded : (s.bodyCursor r).rest.wellCoded = true)
    (told : (s.bodyCursor r).rest.toldType = some .array)
    (entered
      : BodyCursor.readArray ⟨some r⟩ s
        = (.ok ⟨some ⟨(s.moveTo r rest).cursorCount⟩⟩,
            ((s.moveTo r rest).newBodyCursor inside).2))
    : BodyCursor.pass ⟨some r⟩ s = (.ok (), ((s.moveTo r rest).newBodyCursor inside).2) := by
  rw [pass, currentType_eq unplanned rfl coded, told]
  simp only [entered, Attempt.andThen_ok]

theorem pass_scalar {code : Char} {value : Scalar} (unplanned : s.Unplanned)
    (old : r.index < s.cursorCount) (here : (s.bodyCursor r).rest = .scalar code value rest)
    (coded : (Body.scalar code value rest).wellCoded = true)
    (fit : code = 'a' ∨ (value.slot? code).isSome = true)
    : ∃ t,
        BodyCursor.pass ⟨some r⟩ s = (.ok (), t)
        ∧ State.ReadAt r s t
        ∧ (t.bodyCursor r).rest = rest := by
  have moved : State.ReadAt r s (s.moveTo r rest) := .moveTo old (here ▸ .pastScalar (.here _))
  rcases fit with rfl | filled
  · have told : (s.bodyCursor r).rest.toldType = some .array := by
      rw [here]
      exact Body.toldType_of_code? rfl rfl
    have passed := pass_array unplanned (here ▸ coded) told (readArray_scalar unplanned here)
    exact ⟨_, passed, moved.newBodyCursor _, State.rest_entered old _⟩
  · exact ⟨_, pass_basic unplanned here coded filled, moved, s.rest_moveTo r rest⟩

theorem pass_container {items : Body} (unplanned : s.Unplanned) (old : r.index < s.cursorCount)
    (here : (s.bodyCursor r).rest = .container 'a' items rest)
    (coded : (Body.container 'a' items rest).wellCoded = true)
    : ∃ t,
        BodyCursor.pass ⟨some r⟩ s = (.ok (), t)
        ∧ State.ReadAt r s t
        ∧ (t.bodyCursor r).rest = rest := by
  have moved : State.ReadAt r s (s.moveTo r rest) := .moveTo old (here ▸ .pastContainer (.here _))
  have told : (s.bodyCursor r).rest.toldType = some .array := by
    rw [here]
    exact Body.toldType_of_code? rfl rfl
  have passed := pass_array unplanned (here ▸ coded) told (readArray_container unplanned here)
  exact ⟨_, passed, moved.newBodyCursor _, State.rest_entered old _⟩

theorem passMany_succ {c : BodyCursor} {n : Nat} {t : State} (passed : c.pass s = (.ok (), t))
    : passMany (n + 1) c s = passMany n c t := by
  rw [passMany, passed, Attempt.andThen_ok]

/-- Past as many values as come first, a reader stands at the next, by induction on them. -/
theorem passMany_ok {first : Body} (fit : first.readable = true) (unplanned : s.Unplanned)
    (old : r.index < s.cursorCount) (here : (s.bodyCursor r).rest = first ++ rest)
    (coded : (first ++ rest).wellCoded = true)
    : ∃ t,
        BodyCursor.passMany first.length ⟨some r⟩ s = (.ok (), t)
        ∧ State.ReadAt r s t
        ∧ (t.bodyCursor r).rest = rest := by
  induction first generalizing s with
  | empty => exact ⟨s, rfl, .refl r s, here⟩
  | scalar code value tail ih =>
      simp only [Body.readable, Bool.and_eq_true, Bool.or_eq_true, decide_eq_true_eq] at fit
      have codedTail : (tail ++ rest).wellCoded = true := by
        simp only [Body.scalar_append, Body.wellCoded, Bool.and_eq_true] at coded
        exact coded.2
      obtain ⟨t, passed, moved, stands⟩ := pass_scalar unplanned old here coded fit.1
      obtain ⟨u, others, more, past⟩ := ih fit.2 (moved.unplanned unplanned)
        (Nat.lt_of_lt_of_le old moved.count) stands codedTail
      exact ⟨u, (passMany_succ passed).trans others, moved.trans more, past⟩
  | container code items tail _ ih =>
      simp only [Body.readable, Bool.and_eq_true, decide_eq_true_eq] at fit
      obtain ⟨⟨rfl, _⟩, fitTail⟩ := fit
      have codedTail : (tail ++ rest).wellCoded = true := by
        simp only [Body.container_append, Body.wellCoded, Bool.and_eq_true] at coded
        exact coded.2
      obtain ⟨t, passed, moved, stands⟩ := pass_container unplanned old here coded
      obtain ⟨u, others, more, past⟩ := ih fitTail (moved.unplanned unplanned)
        (Nat.lt_of_lt_of_le old moved.count) stands codedTail
      exact ⟨u, (passMany_succ passed).trans others, moved.trans more, past⟩

end BodyCursor

end Custody
