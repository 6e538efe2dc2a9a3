import Custody.Argument
import Custody.Number.LittleEndian
import Custody.State

/-!
What the native side does to messages and to positions inside their bodies. A failure that waits
for a message or a position is used up by its next write; a planned answer comes first.
-/

namespace Custody

/-- What a planned read puts into the slot of a value of the given type code. A slot for a number
takes bytes, a slot for a text takes a pointer, and the slot of a container takes null.
-/
def Native.PlannedRead.slot? (code : Char) : PlannedRead → Option Slot
  | refuse => none
  | slot bytes =>
      if code ∈ ['s', 'o', 'g', 'a'] then none
      else some (.word (UInt64.ofNat (LittleEndian.read 8 bytes)))
  | pointer text =>
      if code ∈ ['s', 'o', 'g'] then some (.text (ZeroTerminated.readPointer text))
      else if code = 'a' then some (.inside none)
      else none

namespace State

/-- Makes a message about a method. -/
def makeMessage (s : State) (method : String) : Option (Ref Native.Message) × State :=
  if s.world.planned.noMessage then (none, s.plan ({ · with noMessage := false }))
  else
    let (r, s) := s.newMessage (.ofMethod method)
    (some r, s)

/-- Counts one more reference to a message. -/
def addRef (s : State) (r : Ref Native.Message) : State :=
  s.setMessage r { s.message r with refs := (s.message r).refs + 1 }

/-- The signature of a message. -/
def messageSignature (s : State) (r : Ref Native.Message) : String × State :=
  match s.world.planned.messageSignature with
  | some text => (ZeroTerminated.readPointer text, s.plan ({ · with messageSignature := none }))
  | none => ((s.message r).signature, s)

/-- What a message says if it is an error reply. -/
def messageFault (s : State) (r : Ref Native.Message) : Option Native.Fault × State :=
  match s.world.planned.fault with
  | some (name, text) =>
      (some ⟨ZeroTerminated.readPointer name, ZeroTerminated.readPointer text⟩,
        s.plan ({ · with fault := none }))
  | none => ((s.message r).fault, s)

/-- Writes one basic value at the end of a message. -/
def writeMessage (s : State) (r : Ref Native.Message) (a : Argument) : Bool × State :=
  let m := s.message r
  if m.failNext then (false, s.setMessage r { m with failNext := false })
  else (true, s.setMessage r (m.push (.one a.code a.scalar) a.type.letter))

/-- Makes a position at the start of the body of a message. -/
def makeBodyCursor (s : State) (r : Ref Native.Message)
    : Option (Ref Native.BodyCursor) × State :=
  if s.world.planned.noCursor then (none, s.plan ({ · with noCursor := false }))
  else
    let (c, s) := s.newBodyCursor { target := some r, rest := (s.message r).body }
    (some c, s)

/-- Uses up the failure that waits for a position, and answers whether one did. -/
def takeCursorFailure (s : State) (r : Ref Native.BodyCursor) : Bool × State :=
  let c := s.bodyCursor r
  (c.failNext, s.setBodyCursor r { c with failNext := false })

/-- Writes values at a position: to its message at the top, and into its container elsewhere. -/
def push (s : State) (r : Ref Native.BodyCursor) (values : Body) (signature : String) : State :=
  match (s.bodyCursor r).target with
  | some m => s.setMessage m ((s.message m).push values signature)
  | none => s.setBodyCursor r ((s.bodyCursor r).push values signature)

/-- Writes one basic value at a position. -/
def writeCursor (s : State) (r : Ref Native.BodyCursor) (a : Argument) : Bool × State :=
  match s.takeCursorFailure r with
  | (true, s) => (false, s)
  | (false, s) => (true, s.push r (.one a.code a.scalar) a.type.letter)

/-- Opens a container at a position. -/
def openAt (s : State) (r : Ref Native.BodyCursor) (code : Char) (contained : String)
    : Option (Ref Native.BodyCursor) × State :=
  if s.world.planned.noContainer then (none, s.plan ({ · with noContainer := false }))
  else
    match s.takeCursorFailure r with
    | (true, s) => (none, s)
    | (false, s) =>
        let (c, s) := s.newBodyCursor { code, contained }
        (some c, s)

/-- Closes a container: its values become one value at the position it was opened at. -/
def closeAt (s : State) (r inner : Ref Native.BodyCursor) : Bool × State :=
  if s.world.planned.noClose then (false, s.plan ({ · with noClose := false }))
  else
    match s.takeCursorFailure r with
    | (true, s) => (false, s)
    | (false, s) =>
        let c := s.bodyCursor inner
        let s := s.setBodyCursor inner { c with items := .empty }
        (true, s.push r (.box c.code c.items) c.closedSignature)

/-- Writes a block of bytes into the container at a position. The block joins the values that wait
there, also at the top of a message, whose body it does not reach.
-/
def writeBlock (s : State) (r : Ref Native.BodyCursor) (bytes : List UInt8) : Bool × State :=
  if s.world.planned.noFixedArray then (false, s.plan ({ · with noFixedArray := false }))
  else
    match s.takeCursorFailure r with
    | (true, s) => (false, s)
    | (false, s) =>
        let c := s.bodyCursor r
        (true, s.setBodyCursor r { c with items := c.items ++ .one 'y' (.bytes bytes) })

/-- The signature of the values still to be read. -/
def restSignature (s : State) (r : Ref Native.BodyCursor) : String × State :=
  match s.world.planned.cursorSignature with
  | some text => (ZeroTerminated.readPointer text, s.plan ({ · with cursorSignature := none }))
  | none => (ZeroTerminated.kept (s.bodyCursor r).rest.signature, s)

/-- Moves a position to the values in `rest`. -/
def moveTo (s : State) (r : Ref Native.BodyCursor) (rest : Body) : State :=
  s.setBodyCursor r { s.bodyCursor r with rest }

/-- Enters a value under the code of an array. -/
def enter (s : State) (inside : Native.BodyCursor) : Option Slot × State :=
  let (c, s) := s.newBodyCursor inside
  (some (.inside (some c)), s)

/-- Reads the next value as one of the given type code. A value under another code stays; one
under this code is passed, also when it does not fit the type.
-/
def readSlot (s : State) (r : Ref Native.BodyCursor) (code : Char) : Option Slot × State :=
  match s.world.planned.read with
  | some answer => (answer.slot? code, s.plan ({ · with read := none }))
  | none =>
      match (s.bodyCursor r).rest with
      | .empty => (none, s)
      | .scalar found value rest =>
          if found ≠ code then (none, s)
          else if code = 'a' then (s.moveTo r rest).enter (.ofScalar value)
          else (value.slot? code, s.moveTo r rest)
      | .container found items rest =>
          if found ≠ code then (none, s)
          else if code = 'a' then (s.moveTo r rest).enter { rest := items }
          else (none, s.moveTo r rest)

/-- The block of bytes at a position: how many there are said to be, as a signed number of 32
bits, and the bytes.
-/
def readBlock (s : State) (r : Ref Native.BodyCursor)
    : Option (Int × Option (List UInt8)) × State :=
  match s.world.planned.fixedArray with
  | some answer => (answer, s.plan ({ · with fixedArray := none }))
  | none =>
      let bytes := (s.bodyCursor r).bytes
      (some ((Int32.ofNat bytes.length).toInt, some bytes), s)

end State

end Custody
