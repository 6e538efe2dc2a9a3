import Custody.ArgumentType
import Custody.Native.BodyCursor

/-!
Values of the basic types: how each is stored in a body, and how a value is made of what a read
puts into its slot. Integers are stored widened and read back by their low bits.
-/

namespace Custody

/-- The path of an object on the bus. -/
structure ObjectPath where
  text : String := ""
deriving DecidableEq, Inhabited

/-- A signature that is itself a value. -/
structure SignatureText where
  text : String := ""
deriving DecidableEq, Inhabited

/-- A number that stands for an open file. -/
structure UnixFd where
  number : Int32
deriving DecidableEq, Inhabited

/-- A value of a basic type. -/
inductive Argument
  | byte (value : UInt8)
  | boolean (value : Bool)
  | int16 (value : Int16)
  | uint16 (value : UInt16)
  | int32 (value : Int32)
  | uint32 (value : UInt32)
  | int64 (value : Int64)
  | uint64 (value : UInt64)
  | double (value : Double)
  | string (value : String)
  | objectPath (value : ObjectPath)
  | signature (value : SignatureText)
  | unixFd (value : UnixFd)
deriving DecidableEq

instance : Inhabited Argument := ⟨.byte 0⟩

/-- What a read puts into the slot of a value: the bits of a number, a text, or a position inside
a container, which may be null.
-/
inductive Slot
  | word (bits : UInt64)
  | text (value : String)
  | inside (target : Option (Ref Native.BodyCursor))
deriving DecidableEq

/-- Timeouts of a call, in milliseconds. -/
def Timeout.infinite : Double := ⟨0x41DFFFFFFFC00000⟩

/-- The timeout that lets the bus choose. -/
def Timeout.byDefault : Double := ⟨0xBFF0000000000000⟩

namespace Argument

/-- The type of a value. -/
def type : Argument → ArgumentType
  | byte _ => .byte
  | boolean _ => .boolean
  | int16 _ => .int16
  | uint16 _ => .uint16
  | int32 _ => .int32
  | uint32 _ => .uint32
  | int64 _ => .int64
  | uint64 _ => .uint64
  | double _ => .double
  | string _ => .string
  | objectPath _ => .objectPath
  | signature _ => .signature
  | unixFd _ => .unixFd

/-- The letter of the type of a value. -/
def code (a : Argument) : Char :=
  a.type.code

/-- The text that a value carries, if it is one of text. -/
def text? : Argument → Option String
  | string s => some s
  | objectPath p => some p.text
  | signature g => some g.text
  | _ => none

/-- Whether a value can be handed over: a text must not hold a NUL. -/
def fits (a : Argument) : Bool :=
  a.text?.elim true ZeroTerminated.fits

/-- How a value is stored in a body. -/
def scalar : Argument → Scalar
  | byte v => .int (Int64.ofNat v.toNat)
  | boolean v => .int (if v then 1 else 0)
  | int16 v => .int v.toInt64
  | uint16 v => .int (Int64.ofNat v.toNat)
  | int32 v => .int v.toInt64
  | uint32 v => .uint v.toUInt64
  | int64 v => .int v
  | uint64 v => .uint v
  | double v => .double v
  | string s => .text s
  | objectPath p => .text p.text
  | signature g => .text g.text
  | unixFd fd => .int fd.number.toInt64

/-- The value of a type that a filled slot holds; a number is read by its low bits. -/
def ofSlot? : ArgumentType → Slot → Option Argument
  | .byte, .word w => some (.byte w.toUInt8)
  | .boolean, .word w => some (.boolean (w.toUInt32 != 0))
  | .int16, .word w => some (.int16 w.toUInt16.toInt16)
  | .uint16, .word w => some (.uint16 w.toUInt16)
  | .int32, .word w => some (.int32 w.toUInt32.toInt32)
  | .uint32, .word w => some (.uint32 w.toUInt32)
  | .int64, .word w => some (.int64 w.toInt64)
  | .uint64, .word w => some (.uint64 w)
  | .double, .word w => some (.double ⟨w⟩)
  | .unixFd, .word w => some (.unixFd ⟨w.toUInt32.toInt32⟩)
  | .string, .text s => some (.string s)
  | .objectPath, .text s => some (.objectPath ⟨s⟩)
  | .signature, .text s => some (.signature ⟨s⟩)
  | _, _ => none

/-- Equality of values: of one type, and equal as values of it. -/
def equals : Argument → Argument → Bool
  | double a, double b => a.equals b
  | a, b => a = b

end Argument

/-- What a read under a type code finds in a stored value: a double under its own code, a text
under the three codes of text, the bits of an integer under the codes of integers. Any other
pair is a mismatch.
-/
def Scalar.slot? (code : Char) : Scalar → Option Slot
  | .double value => if code = 'd' then some (.word value.bits) else none
  | .text value =>
      if code ∈ ['s', 'o', 'g'] then some (.text (ZeroTerminated.kept value)) else none
  | .int value => ofWord value.toUInt64
  | .uint value => ofWord value
  | .bytes _ => none
where
  /-- The slot of an integer; a flag is one or zero. -/
  ofWord (bits : UInt64) : Option Slot :=
    if code = 'b' then some (.word (if bits = 0 then 0 else 1))
    else if code ∈ ['y', 'n', 'q', 'i', 'h', 'u', 'x', 't'] then some (.word bits)
    else none

end Custody
