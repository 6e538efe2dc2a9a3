import Custody.Message
import Custody.Proofs.Reading.Letters

/-! What a read does where the native side follows no planned answer: one equation per read, in
terms of the values that the position has still to read.
-/

namespace Custody

/-- No answer of the native side is planned. -/
def State.Unplanned (s : State) : Prop :=
  s.world.planned = {}

namespace State

@[simp]
theorem bodyCursor_setBodyCursor_self (s : State) (r : Ref Native.BodyCursor)
    (c : Native.BodyCursor)
    : (s.setBodyCursor r c).bodyCursor r = c :=
  Heap.get_put_self _ _ _

theorem bodyCursor_setBodyCursor_of_ne (s : State) {r q : Ref Native.BodyCursor}
    (c : Native.BodyCursor) (ne : q ≠ r)
    : (s.setBodyCursor r c).bodyCursor q = s.bodyCursor q :=
  Heap.get_put_of_ne _ _ ne

/-- The number of positions that were ever made. -/
def cursorCount (s : State) : Nat :=
  s.world.bodyCursors.size

@[simp]
theorem cursorCount_setBodyCursor (s : State) {r : Ref Native.BodyCursor}
    (c : Native.BodyCursor) (old : r.index < s.cursorCount)
    : (s.setBodyCursor r c).cursorCount = s.cursorCount :=
  Heap.size_put _ _ old

theorem bodyCursor_newBodyCursor_self (s : State) (c : Native.BodyCursor)
    : (s.newBodyCursor c).2.bodyCursor ⟨s.cursorCount⟩ = c :=
  Heap.get_alloc_self _ _

theorem bodyCursor_newBodyCursor_of_old (s : State) {q : Ref Native.BodyCursor}
    (c : Native.BodyCursor) (old : q.index < s.cursorCount)
    : (s.newBodyCursor c).2.bodyCursor q = s.bodyCursor q :=
  Heap.get_alloc_of_ne _ _ old

@[simp]
theorem cursorCount_newBodyCursor (s : State) (c : Native.BodyCursor)
    : (s.newBodyCursor c).2.cursorCount = s.cursorCount + 1 :=
  Heap.size_alloc _ _

theorem lt_cursorCount_newBodyCursor (s : State) (c : Native.BodyCursor)
    : s.cursorCount < (s.newBodyCursor c).2.cursorCount := by
  rw [cursorCount_newBodyCursor]
  exact Nat.lt_succ_self _

@[simp]
theorem rest_moveTo (s : State) (r : Ref Native.BodyCursor) (rest : Body)
    : ((s.moveTo r rest).bodyCursor r).rest = rest := by
  simp [moveTo]

theorem bodyCursor_moveTo_of_ne (s : State) {r q : Ref Native.BodyCursor} (rest : Body)
    (ne : q ≠ r)
    : (s.moveTo r rest).bodyCursor q = s.bodyCursor q :=
  bodyCursor_setBodyCursor_of_ne s _ ne

@[simp]
theorem cursorCount_moveTo (s : State) {r : Ref Native.BodyCursor} (rest : Body)
    (old : r.index < s.cursorCount)
    : (s.moveTo r rest).cursorCount = s.cursorCount :=
  cursorCount_setBodyCursor s _ old

theorem Unplanned.newBodyCursor {s : State} (unplanned : s.Unplanned) (c : Native.BodyCursor)
    : (s.newBodyCursor c).2.Unplanned :=
  unplanned

variable {s : State} {r : Ref Native.BodyCursor} {code found : Char} {value : Scalar}
variable {items rest : Body}

theorem readSlot_other (unplanned : s.Unplanned) (other : (s.bodyCursor r).rest.code? ≠ some code)
    : s.readSlot r code = (none, s) := by
  have none : s.world.planned.read = none := by rw [unplanned]
  rw [readSlot, none]
  cases next : (s.bodyCursor r).rest with
  | empty => rfl
  | scalar found value rest =>
      have ne : found ≠ code := by simpa [next, Body.code?] using other
      simp [ne]
  | container found items rest =>
      have ne : found ≠ code := by simpa [next, Body.code?] using other
      simp [ne]

/-- A value without values inside is passed, and its slot is what the code finds in it. -/
theorem readSlot_scalar (unplanned : s.Unplanned) (notArray : code ≠ 'a')
    (next : (s.bodyCursor r).rest = .scalar code value rest)
    : s.readSlot r code = (value.slot? code, s.moveTo r rest) := by
  have none : s.world.planned.read = none := by rw [unplanned]
  simp [readSlot, none, next, notArray]

/-- Values inside never fit a slot; they are passed all the same. -/
theorem readSlot_container (unplanned : s.Unplanned) (notArray : code ≠ 'a')
    (next : (s.bodyCursor r).rest = .container code items rest)
    : s.readSlot r code = (none, s.moveTo r rest) := by
  have none : s.world.planned.read = none := by rw [unplanned]
  simp [readSlot, none, next, notArray]

theorem readSlot_block (unplanned : s.Unplanned)
    (next : (s.bodyCursor r).rest = .scalar 'a' value rest)
    : s.readSlot r 'a' = (s.moveTo r rest).enter (.ofScalar value) := by
  have none : s.world.planned.read = none := by rw [unplanned]
  simp [readSlot, none, next]

theorem readSlot_array (unplanned : s.Unplanned)
    (next : (s.bodyCursor r).rest = .container 'a' items rest)
    : s.readSlot r 'a' = (s.moveTo r rest).enter { rest := items } := by
  have none : s.world.planned.read = none := by rw [unplanned]
  simp [readSlot, none, next]

end State

namespace BodyCursor

variable {s : State} {r : Ref Native.BodyCursor} {items rest : Body}

theorem eq_of_raw {c : BodyCursor} (place : c.raw = some r)
    : c = ⟨some r⟩ := by
  cases c
  exact congrArg _ place

theorem signature_shown (unplanned : s.Unplanned) (next : (s.bodyCursor r).rest = rest)
    : BodyCursor.signature ⟨some r⟩ s
      = (if ZeroTerminated.kept rest.signature = "" then none
          else some (ZeroTerminated.kept rest.signature), s) := by
  have none : s.world.planned.cursorSignature = none := by rw [unplanned]
  simp only [signature, State.restSignature, none, next]

theorem currentType_shown (unplanned : s.Unplanned) (next : (s.bodyCursor r).rest = rest)
    : BodyCursor.currentType ⟨some r⟩ s = (rest.shownType, s) := by
  rw [currentType, signature_shown unplanned next, Body.shownType]
  by_cases blank : ZeroTerminated.kept rest.signature = ""
  · simp [blank]
  · simp [blank]

/-- A read of a basic value turns on the type that the signature shows. -/
theorem read_shown (unplanned : s.Unplanned) (next : (s.bodyCursor r).rest = rest)
    : BodyCursor.read ⟨some r⟩ s
      = match rest.shownType with
        | none => (.error (.read '\x00'), s)
        | some t =>
            if !t.isBasic then (.error (.read t.code), s)
            else
              match ((s.readSlot r t.code).1.bind (Argument.ofSlot? t) : Option Argument) with
              | some a => (.ok a, (s.readSlot r t.code).2)
              | none => (.error (.read t.code), (s.readSlot r t.code).2) := by
  rw [read, State.live, Attempt.andThen_ok, currentType_shown unplanned next]
  cases rest.shownType with
  | none => rfl
  | some t => rfl

/-- The signature of letters is told whole, and tells nothing at the end. -/
theorem signature_eq (unplanned : s.Unplanned) (next : (s.bodyCursor r).rest = rest)
    (coded : rest.wellCoded = true)
    : BodyCursor.signature ⟨some r⟩ s
      = (if rest.signature = "" then none else some rest.signature, s) := by
  rw [signature_shown unplanned next, ZeroTerminated.kept_of_fits (Body.fits_signatures coded).2]

theorem currentType_eq (unplanned : s.Unplanned) (next : (s.bodyCursor r).rest = rest)
    (coded : rest.wellCoded = true)
    : BodyCursor.currentType ⟨some r⟩ s = (rest.toldType, s) := by
  rw [currentType_shown unplanned next, Body.shownType_of_wellCoded coded]

theorem read_eq (unplanned : s.Unplanned) (next : (s.bodyCursor r).rest = rest)
    (coded : rest.wellCoded = true)
    : BodyCursor.read ⟨some r⟩ s
      = match rest.toldType with
        | none => (.error (.read '\x00'), s)
        | some t =>
            if !t.isBasic then (.error (.read t.code), s)
            else
              match ((s.readSlot r t.code).1.bind (Argument.ofSlot? t) : Option Argument) with
              | some a => (.ok a, (s.readSlot r t.code).2)
              | none => (.error (.read t.code), (s.readSlot r t.code).2) := by
  rw [read_shown unplanned next, Body.shownType_of_wellCoded coded]

/-- A basic value that fits its type is read, and passed. -/
theorem read_basic {t : ArgumentType} {value : Scalar} {a : Argument} (unplanned : s.Unplanned)
    (next : (s.bodyCursor r).rest = .scalar t.code value rest)
    (coded : (Body.scalar t.code value rest).wellCoded = true) (basic : t.isBasic = true)
    (found : (value.slot? t.code).bind (Argument.ofSlot? t) = some a)
    : BodyCursor.read ⟨some r⟩ s = (.ok a, s.moveTo r rest) := by
  have told : (Body.scalar t.code value rest).toldType = some t := Body.toldType_of_code? rfl rfl
  have notArray : t.code ≠ 'a' := t.code_ne_array basic
  rw [read_eq unplanned next coded, told]
  simp only [basic, Bool.not_true, Bool.false_eq_true, if_false,
    State.readSlot_scalar unplanned notArray next, found]

/-- A read enters the values inside an array, at a position of their own. -/
theorem readArray_container (unplanned : s.Unplanned)
    (next : (s.bodyCursor r).rest = .container 'a' items rest)
    : BodyCursor.readArray ⟨some r⟩ s
      = (.ok ⟨some ⟨(s.moveTo r rest).cursorCount⟩⟩,
          ((s.moveTo r rest).newBodyCursor { rest := items }).2) := by
  have slot := State.readSlot_array unplanned next
  rw [readArray, State.live, Attempt.andThen_ok]
  simp only [ArgumentType.code, slot]
  rfl

/-- A read enters a value without values inside that stands for an array. -/
theorem readArray_scalar {value : Scalar} (unplanned : s.Unplanned)
    (next : (s.bodyCursor r).rest = .scalar 'a' value rest)
    : BodyCursor.readArray ⟨some r⟩ s
      = (.ok ⟨some ⟨(s.moveTo r rest).cursorCount⟩⟩,
          ((s.moveTo r rest).newBodyCursor (.ofScalar value)).2) := by
  have slot := State.readSlot_block unplanned next
  rw [readArray, State.live, Attempt.andThen_ok]
  simp only [ArgumentType.code, slot]
  rfl

theorem readArray_other (unplanned : s.Unplanned) (other : (s.bodyCursor r).rest.code? ≠ some 'a')
    : BodyCursor.readArray ⟨some r⟩ s = (.error (.read 'a'), s) := by
  have slot := State.readSlot_other unplanned other
  rw [readArray, State.live, Attempt.andThen_ok]
  simp only [ArgumentType.code, slot]

/-- The number of bytes is told in 32 bits with a sign, and a negative one is refused. -/
theorem readBytes_eq (unplanned : s.Unplanned)
    : BodyCursor.readBytes ⟨some r⟩ s
      = if (Int32.ofNat (s.bodyCursor r).bytes.length).toInt < 0 then (.error (.read 'y'), s)
        else
          match
            Buffer.ofBytes
              ((s.bodyCursor r).bytes.take
                (Int32.ofNat (s.bodyCursor r).bytes.length).toInt.toNat) s
          with
          | (.ok b, s) => (.ok b, s)
          | (.error e, s) => (.error (.buffer e), s) := by
  have none : s.world.planned.fixedArray = none := by rw [unplanned]
  simp only [readBytes, State.live, Attempt.andThen_ok, State.readBlock, none]
  rfl

end BodyCursor

/-- A position that is made at the start of a message has all its values to read. -/
theorem Message.cursor_given {m : Message} {s : State} {r : Ref Native.Message}
    (given : s.world.planned.noCursor = false) (raw : m.raw = some r)
    : m.cursor s
      = (.ok ⟨some ⟨s.cursorCount⟩⟩,
          (s.newBodyCursor { target := some r, rest := (s.message r).body }).2) := by
  rw [cursor, raw, State.live, Attempt.andThen_ok, State.makeBodyCursor, given]
  rfl

theorem Message.cursor_eq {m : Message} {s : State} {r : Ref Native.Message}
    (unplanned : s.Unplanned) (raw : m.raw = some r)
    : m.cursor s
      = (.ok ⟨some ⟨s.cursorCount⟩⟩,
          (s.newBodyCursor { target := some r, rest := (s.message r).body }).2) :=
  cursor_given (by rw [unplanned]) raw

end Custody
