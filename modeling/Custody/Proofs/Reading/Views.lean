import Custody.Proofs.Buffers.Making
import Custody.Proofs.Reading.TypeTelling

/-! What a reader has before it decides all that it is told: every read is a function of the values still
to be read and of the block in the place of the array, and so is what the reader has before it afterwards.
-/

namespace Custody

open State BodyCursor

/-- What a reader has before it: the values still to be read, and the block of bytes in the place of the
array that it is inside of.
-/
structure View where
  rest : Body
  block : List UInt8 := []
deriving DecidableEq

/-- What a reader is told by a read. Of an array it is told whether it was entered, of a block the bytes
in the buffer that was made.
-/
inductive Told
  | signature (text : Option String)
  | type (next : Option ArgumentType)
  | basic (answer : Except BusError Argument)
  | array (answer : Except BusError Unit)
  | bytes (answer : Except BusError (Option (List UInt8)))

/-- What a reader is told, at a position in a state. -/
def ReadAct.tell (act : ReadAct) (c : BodyCursor) (s : State) : Told :=
  match act with
  | .signature => .signature (c.signature s).1
  | .currentType => .type (c.currentType s).1
  | .basic => .basic (c.read s).1
  | .array => .array ((c.readArray s).1.map fun _ => ())
  | .bytes =>
      match c.readBytes s with
      | (.ok b, t) => .bytes (.ok (b.toBytes? t).1)
      | (.error e, _) => .bytes (.error e)

def Native.BodyCursor.view (c : Native.BodyCursor) : View :=
  ⟨c.rest, c.bytes⟩

/-- What the reader at a position has before it. -/
def State.view (s : State) (q : Ref Native.BodyCursor) : View :=
  (s.bodyCursor q).view

namespace Body

/-- The values after the first. -/
def tail : Body → Body
  | empty => empty
  | scalar _ _ rest => rest
  | container _ _ rest => rest

/-- What a read finds in the first value, under its own code. -/
def slot? : Body → Option Slot
  | scalar code value _ => value.slot? code
  | _ => none

/-- A new position inside the first value, if that is an array. -/
def inside? : Body → Option Native.BodyCursor
  | empty => none
  | scalar code value _ => if code = 'a' then some (.ofScalar value) else none
  | container code items _ => if code = 'a' then some { rest := items } else none

theorem inside?_of_code? {b : Body} (other : b.code? ≠ some 'a')
    : b.inside? = none := by
  cases b with
  | empty => rfl
  | scalar code | container code =>
      have notArray : code ≠ 'a' := by simpa [code?] using other
      simp [inside?, notArray]

end Body

-----------------------------------------------------------------------------------------
-- A reader on its own
-----------------------------------------------------------------------------------------

namespace View

/-- The basic value that a read finds. -/
def basic (v : View) : Except BusError Argument :=
  match v.rest.shownType with
  | none => .error (.read '\x00')
  | some t =>
      if !t.isBasic then .error (.read t.code)
      else
        match v.rest.slot?.bind (Argument.ofSlot? t) with
        | some a => .ok a
        | none => .error (.read t.code)

/-- The bytes that a read copies: their number is told in 32 bits with a sign, and a negative one is
refused.
-/
def bytes (v : View) : Except BusError (Option (List UInt8)) :=
  let count := (Int32.ofNat v.block.length).toInt
  if count < 0 then .error (.read 'y') else .ok (some (v.block.take count.toNat))

/-- What a reader is told that has this before it. -/
def tell (v : View) : ReadAct → Told
  | .signature =>
      let text := ZeroTerminated.kept v.rest.signature
      .signature (if text = "" then none else some text)
  | .currentType => .type v.rest.shownType
  | .basic => .basic v.basic
  | .array => .array (if v.rest.inside?.isSome then .ok () else .error (.read 'a'))
  | .bytes => .bytes v.bytes

/-- Whether a read passes the first value. A basic type that is shown is passed, also when the value does
not fit it.
-/
def passes (v : View) : ReadAct → Bool
  | .basic => v.rest.shownType.any ArgumentType.isBasic
  | .array => v.rest.inside?.isSome
  | _ => false

/-- What the reader has before it after a read. -/
def after (v : View) (act : ReadAct) : View :=
  if v.passes act then { v with rest := v.rest.tail } else v

/-- What a reader is told by one read after another. -/
def answers : View → List ReadAct → List Told
  | _, [] => []
  | v, act :: acts => v.tell act :: (v.after act).answers acts

end View

-----------------------------------------------------------------------------------------
-- A reader among others
-----------------------------------------------------------------------------------------

variable {s t : State} {q : Ref Native.BodyCursor} {code : Char}

namespace State

theorem view_newBodyCursor_of_old (c : Native.BodyCursor) (old : q.index < s.cursorCount)
    : (s.newBodyCursor c).2.view q = s.view q := by
  rw [view, bodyCursor_newBodyCursor_of_old s c old]
  rfl

theorem view_moveTo_self (rest : Body)
    : (s.moveTo q rest).view q = { s.view q with rest } := by
  rw [view, moveTo, bodyCursor_setBodyCursor_self]
  rfl

theorem SameBus.view (same : s.SameBus t) (q : Ref Native.BodyCursor)
    : t.view q = s.view q := by
  rw [State.view, State.view, bodyCursor, bodyCursor, same.bodyCursors]

theorem ReadAt.view {r : Ref Native.BodyCursor} (done : ReadAt r s t)
    (old : q.index < s.cursorCount) (ne : q ≠ r)
    : t.view q = s.view q := by
  rw [State.view, State.view, done.others q old ne]

/-- A first value under the code is passed, whether it fits or not. -/
theorem readSlot_first (unplanned : s.Unplanned) (notArray : code ≠ 'a')
    (head : (s.view q).rest.code? = some code)
    : s.readSlot q code
      = ((s.view q).rest.slot?, s.moveTo q (s.view q).rest.tail) := by
  cases next : (s.view q).rest with
  | empty => simp [next, Body.code?] at head
  | scalar found value rest =>
      obtain rfl : found = code := by simpa [next, Body.code?] using head
      exact readSlot_scalar unplanned notArray next
  | container found items rest =>
      obtain rfl : found = code := by simpa [next, Body.code?] using head
      exact readSlot_container unplanned notArray next

end State

namespace BodyCursor

theorem read_view (unplanned : s.Unplanned)
    : BodyCursor.read ⟨some q⟩ s
      = ((s.view q).basic,
          if (s.view q).passes .basic then s.moveTo q (s.view q).rest.tail else s) := by
  have here : (s.bodyCursor q).rest = (s.view q).rest := rfl
  rw [read_shown unplanned here, View.basic, View.passes]
  cases shown : (s.view q).rest.shownType with
  | none => rfl
  | some t =>
      cases basic : t.isBasic with
      | false => simp [basic]
      | true =>
          have slot := readSlot_first unplanned (t.code_ne_array basic)
            (Body.code?_of_shownType shown)
          simp only [basic, slot, Option.any_some, Bool.not_true, Bool.false_eq_true, if_false,
            if_true]
          cases (s.view q).rest.slot?.bind (Argument.ofSlot? t) with
          | none => rfl
          | some a => rfl

/-- The inside of an array is entered at a new position. -/
theorem readArray_view (unplanned : s.Unplanned) (old : q.index < s.cursorCount)
    : BodyCursor.readArray ⟨some q⟩ s
      = match (s.view q).rest.inside? with
        | some inner =>
            (.ok ⟨some ⟨s.cursorCount⟩⟩,
              ((s.moveTo q (s.view q).rest.tail).newBodyCursor inner).2)
        | none => (.error (.read 'a'), s) := by
  by_cases array : (s.view q).rest.code? = some 'a'
  · cases next : (s.view q).rest with
    | empty => simp [next, Body.code?] at array
    | scalar found value rest =>
        obtain rfl : found = 'a' := by simpa [next, Body.code?] using array
        rw [readArray_scalar unplanned next, cursorCount_moveTo s rest old]
        rfl
    | container found items rest =>
        obtain rfl : found = 'a' := by simpa [next, Body.code?] using array
        rw [readArray_container unplanned next, cursorCount_moveTo s rest old]
        rfl
  · rw [readArray_other unplanned array, Body.inside?_of_code? array]

/-- A position that was made inside an array stands at its first value. -/
theorem readArray_enters {inner : Native.BodyCursor} (unplanned : s.Unplanned)
    (old : q.index < s.cursorCount) (inside : (s.view q).rest.inside? = some inner)
    : ∃ t,
        BodyCursor.readArray ⟨some q⟩ s = (.ok ⟨some ⟨s.cursorCount⟩⟩, t)
        ∧ ReadAt q s t
        ∧ t.bodyCursor ⟨s.cursorCount⟩ = inner
        ∧ s.cursorCount < t.cursorCount := by
  have entered := readArray_view unplanned old
  have moves := (readsAt_readArray unplanned old).moves
  have stands := (s.moveTo q (s.view q).rest.tail).bodyCursor_newBodyCursor_self inner
  have count := (s.moveTo q (s.view q).rest.tail).lt_cursorCount_newBodyCursor inner
  rw [inside] at entered
  rw [ReadAct.run, entered] at moves
  rw [cursorCount_moveTo s _ old] at stands count
  exact ⟨_, entered, moves, stands, count⟩

/-- The bytes that are copied are in the buffer that is made of them. -/
theorem tell_bytes (unplanned : s.Unplanned) (calm : s.thread.Calm)
    : ReadAct.bytes.tell ⟨some q⟩ s = .bytes (s.view q).bytes := by
  rw [ReadAct.tell, readBytes_eq unplanned, View.bytes]
  by_cases negative : (Int32.ofNat (s.bodyCursor q).bytes.length).toInt < 0
  · rw [if_pos negative]
    exact congrArg Told.bytes (if_pos negative).symm
  · obtain ⟨b, t, made, -, holds⟩ :=
      Buffer.ofBytes_calm calm
        ((s.bodyCursor q).bytes.take
          (Int32.ofNat (s.bodyCursor q).bytes.length).toInt.toNat)
    rw [if_neg negative, made]
    simp only [holds]
    exact congrArg Told.bytes (if_neg negative).symm

end BodyCursor

/-- A reader is told what it would be told on its own. -/
theorem ReadAct.tell_view (act : ReadAct) (unplanned : s.Unplanned) (calm : s.thread.Calm)
    (old : q.index < s.cursorCount)
    : act.tell ⟨some q⟩ s = (s.view q).tell act := by
  cases act with
  | signature => rw [tell, signature_shown unplanned rfl]; rfl
  | currentType => rw [tell, currentType_shown unplanned rfl]; rfl
  | basic => rw [tell, read_view unplanned]; rfl
  | array =>
      rw [tell, readArray_view unplanned old, View.tell]
      cases (s.view q).rest.inside? with
      | none => rfl
      | some inner => rfl
  | bytes => exact tell_bytes unplanned calm

/-- What is made by a read, and what the reader has before it then. -/
theorem ReadAct.run_view (act : ReadAct) (unplanned : s.Unplanned) (old : q.index < s.cursorCount)
    : (act.run ⟨some q⟩ s).2.view q = (s.view q).after act := by
  cases act with
  | signature => rw [run, signature_shown unplanned rfl]; rfl
  | currentType => rw [run, currentType_shown unplanned rfl]; rfl
  | basic =>
      rw [run, read_view unplanned, View.after]
      dsimp only
      split
      · exact view_moveTo_self _
      · rfl
  | array =>
      rw [run, readArray_view unplanned old, View.after, View.passes]
      have oldNow : q.index < (s.moveTo q (s.view q).rest.tail).cursorCount := by
        rw [cursorCount_moveTo s _ old]
        exact old
      cases (s.view q).rest.inside? with
      | none => rfl
      | some inner =>
          dsimp only
          rw [view_newBodyCursor_of_old inner oldNow, view_moveTo_self]
          rfl
  | bytes => exact (sameBus_readBytes unplanned).view q

end Custody
