import Custody.BufferView
import Custody.Number.Ieee
import Custody.Number.LittleEndian

/-!
How the elements of a native cursor are read. Numbers and flags are read through the pointer,
texts up to their terminator, and pointers and buffers are taken as they are.
-/

namespace Custody

/-- What the elements of a cursor are. -/
inductive ElementKind
  | int8
  | uint8
  | int16
  | uint16
  | int32
  | uint32
  | int64
  | uint64
  | single
  | double
  | flag
  | pointer
  | textPointer
  | text
  | buffer
deriving DecidableEq, Inhabited

namespace ElementKind

/-- The values that a kind of element is read as. -/
abbrev Carrier : ElementKind → Type
  | int8 => Int8
  | uint8 => UInt8
  | int16 => Int16
  | uint16 => UInt16
  | int32 => Int32
  | uint32 => UInt32
  | int64 => Int64
  | uint64 => UInt64
  | single => Single
  | double => Double
  | flag => Bool
  | pointer => Native.Element
  | textPointer => Native.Element
  | text => String
  | buffer => BufferView

/-- The memory behind an element; a null pointer, like any pointer to no memory, has none. -/
def memory : Native.Element → List UInt8
  | .memory bytes => bytes
  | _ => []

/-- The number of `width` bytes behind an element; zero behind a null pointer. -/
def number (width : Nat) (e : Native.Element) : Nat :=
  LittleEndian.read width (memory e)

/-- Reads an element as a value of its kind. -/
def read : (k : ElementKind) → Native.Element → k.Carrier
  | int8, e => (UInt8.ofNat (number 1 e)).toInt8
  | uint8, e => UInt8.ofNat (number 1 e)
  | int16, e => (UInt16.ofNat (number 2 e)).toInt16
  | uint16, e => UInt16.ofNat (number 2 e)
  | int32, e => (UInt32.ofNat (number 4 e)).toInt32
  | uint32, e => UInt32.ofNat (number 4 e)
  | int64, e => (UInt64.ofNat (number 8 e)).toInt64
  | uint64, e => UInt64.ofNat (number 8 e)
  | single, e => ⟨UInt32.ofNat (number 4 e)⟩
  | double, e => ⟨UInt64.ofNat (number 8 e)⟩
  | flag, e => number 1 e != 0
  | pointer, e => e
  | textPointer, e => e
  | text, e => ZeroTerminated.read (memory e)
  | buffer, .buffer r => ⟨some r⟩
  | buffer, _ => ⟨none⟩

/-- Stores a value as an element of its kind. -/
def store : (k : ElementKind) → k.Carrier → Native.Element
  | int8, v => .memory (LittleEndian.encode 1 v.toUInt8.toNat)
  | uint8, v => .memory (LittleEndian.encode 1 v.toNat)
  | int16, v => .memory (LittleEndian.encode 2 v.toUInt16.toNat)
  | uint16, v => .memory (LittleEndian.encode 2 v.toNat)
  | int32, v => .memory (LittleEndian.encode 4 v.toUInt32.toNat)
  | uint32, v => .memory (LittleEndian.encode 4 v.toNat)
  | int64, v => .memory (LittleEndian.encode 8 v.toUInt64.toNat)
  | uint64, v => .memory (LittleEndian.encode 8 v.toNat)
  | single, v => .memory (LittleEndian.encode 4 v.bits.toNat)
  | double, v => .memory (LittleEndian.encode 8 v.bits.toNat)
  | flag, v => .memory (LittleEndian.encode 1 v.toNat)
  | pointer, v => v
  | textPointer, v => v
  | text, v => .memory (ZeroTerminated.memory v)
  | buffer, ⟨some r⟩ => .buffer r
  | buffer, ⟨none⟩ => .null

/-- The elements for a list of texts, in which any may be missing. -/
def storeTexts (texts : List (Option String)) : List Native.Element :=
  texts.map fun t => t.elim .null (store text)

end ElementKind

end Custody
