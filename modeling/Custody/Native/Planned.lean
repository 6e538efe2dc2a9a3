/-!
Answers planned for the native side: the next call of a function takes its planned answer, once,
in place of what the function would do. They stand for what the native side may do and the
stores of this library never would.
-/

namespace Custody.Native

/-- A planned answer to the reading of one value. -/
inductive PlannedRead
  | refuse
  /-- The slot of the value receives eight bytes; a slot for a pointer has no place for them. -/
  | slot (bytes : List UInt8)
  /-- The slot of the value receives a pointer to a text, or null; only a slot for a pointer has
  a place for it, and the slot for a container receives null.
  -/
  | pointer (text : Option (List UInt8))
deriving DecidableEq

/-- The answers planned, per function. -/
structure PlannedAnswers where
  noMessage : Bool := false
  noCursor : Bool := false
  noContainer : Bool := false
  noClose : Bool := false
  /-- The block of elements is not written. -/
  noFixedArray : Bool := false
  messageSignature : Option (Option (List UInt8)) := none
  callMethod : Option (Option (List UInt8)) := none
  /-- The signature of the values to be read. -/
  cursorSignature : Option (Option (List UInt8)) := none
  /-- The name and text of an error reply. -/
  fault : Option (Option (List UInt8) × Option (List UInt8)) := none
  /-- The block of bytes to be read: a count and a pointer, or a refusal. -/
  fixedArray : Option (Option (Int × Option (List UInt8))) := none
  /-- The reading of one value. -/
  read : Option PlannedRead := none
deriving DecidableEq, Inhabited

end Custody.Native
