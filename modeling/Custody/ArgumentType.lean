/-!
The types that a value of a message can have, each with the letter that stands for it in a
signature.
-/

namespace Custody

/-- A type of values: thirteen basic ones and four containers. -/
inductive ArgumentType
  | byte
  | boolean
  | int16
  | uint16
  | int32
  | uint32
  | int64
  | uint64
  | double
  | string
  | objectPath
  | signature
  | array
  | struct
  | variant
  | dictEntry
  | unixFd
deriving DecidableEq, Inhabited

namespace ArgumentType

/-- Every type, in the order of their indices. -/
def all : List ArgumentType :=
  [byte, boolean, int16, uint16, int32, uint32, int64, uint64, double, string, objectPath,
    signature, array, struct, variant, dictEntry, unixFd]

/-- The name of a type. -/
def name : ArgumentType → String
  | byte => "Byte"
  | boolean => "Boolean"
  | int16 => "Int16"
  | uint16 => "UInt16"
  | int32 => "Int32"
  | uint32 => "UInt32"
  | int64 => "Int64"
  | uint64 => "UInt64"
  | double => "Double"
  | string => "String"
  | objectPath => "ObjectPath"
  | signature => "Signature"
  | array => "Array"
  | struct => "Struct"
  | variant => "Variant"
  | dictEntry => "DictEntry"
  | unixFd => "UnixFd"

/-- The letter of a type. -/
def code : ArgumentType → Char
  | byte => 'y'
  | boolean => 'b'
  | int16 => 'n'
  | uint16 => 'q'
  | int32 => 'i'
  | uint32 => 'u'
  | int64 => 'x'
  | uint64 => 't'
  | double => 'd'
  | string => 's'
  | objectPath => 'o'
  | signature => 'g'
  | array => 'a'
  | struct => 'r'
  | variant => 'v'
  | dictEntry => 'e'
  | unixFd => 'h'

/-- The letter of a type as a text, which is how a type is written. -/
def letter (t : ArgumentType) : String :=
  t.code.toString

/-- Whether a type holds values of other types. -/
def isContainer : ArgumentType → Bool
  | array | struct | variant | dictEntry => true
  | _ => false

/-- Whether a type holds no other values. -/
def isBasic (t : ArgumentType) : Bool :=
  !t.isContainer

/-- The place of a type in the order of all types. -/
def index (t : ArgumentType) : Nat :=
  all.idxOf t

/-- The type of a letter. -/
def ofCode? (c : Char) : Option ArgumentType :=
  all.find? fun t => t.code == c

/-- Every type is found by its letter. -/
@[simp]
theorem ofCode?_code (t : ArgumentType)
    : ofCode? t.code = some t := by
  cases t <;> decide

end ArgumentType

end Custody
