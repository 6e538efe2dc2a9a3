import Custody.Number.Ieee

/-!
The body of a message: a sequence of values under type codes, in which a container holds a body
of its own. A body has a signature, which is told from its values alone.
-/

namespace Custody

/-- A value that holds no other values. -/
inductive Scalar
  | int (value : Int64)
  | uint (value : UInt64)
  | double (value : Double)
  | text (value : String)
  | bytes (value : List UInt8)
deriving DecidableEq

/-- A sequence of values, each under a type code. -/
inductive Body
  | empty
  | scalar (code : Char) (value : Scalar) (rest : Body)
  | container (code : Char) (items rest : Body)
deriving DecidableEq

instance : Inhabited Scalar := ⟨.int 0⟩
instance : Inhabited Body := ⟨.empty⟩

/-- The 64 bits of an integer, signed or not; no other value has them. -/
def Scalar.word? : Scalar → Option UInt64
  | int value => some value.toUInt64
  | uint value => some value
  | _ => none

/-- The signature of a value without values inside: a block of bytes under the code of an array
is an array of bytes, and any other value is told by its code.
-/
def Scalar.signature (code : Char) : Scalar → String
  | bytes _ => if code = 'a' then "ay" else code.toString
  | _ => code.toString

namespace Body

/-- The values of one body followed by those of another. -/
def append : Body → Body → Body
  | empty, b => b
  | scalar code value rest, b => scalar code value (rest.append b)
  | container code items rest, b => container code items (rest.append b)

instance : Append Body := ⟨append⟩

/-- A body of one value. -/
def one (code : Char) (value : Scalar) : Body :=
  scalar code value empty

/-- A body of one container. -/
def box (code : Char) (items : Body) : Body :=
  container code items empty

/-- The number of values, those inside containers not counted. -/
def length : Body → Nat
  | empty => 0
  | scalar _ _ rest => rest.length + 1
  | container _ _ rest => rest.length + 1

/-- The type code of the first value. -/
def code? : Body → Option Char
  | empty => none
  | scalar code _ _ => some code
  | container code _ _ => some code

/-- The signature of a container, from the signatures of its first value and of all of them. -/
def boxSignature (code : Char) (first all : String) : String :=
  if code = 'a' then "a" ++ first
  else if code = 'r' then "(" ++ all ++ ")"
  else if code = 'e' then "\x7b" ++ all ++ "\x7d"
  else code.toString

/-- The signature of the first value, empty when there is none, and the signatures of all values
joined. Both come from one pass, which takes each container once at every depth.
-/
def signatures : Body → String × String
  | empty => ("", "")
  | scalar code value rest =>
      (value.signature code, value.signature code ++ rest.signatures.2)
  | container code items rest =>
      let inside := items.signatures
      let box := boxSignature code inside.1 inside.2
      (box, box ++ rest.signatures.2)

/-- The signatures of all values, joined. -/
def signature (b : Body) : String :=
  b.signatures.2

/-- The signature of the first value; empty when there is none. -/
def firstSignature (b : Body) : String :=
  b.signatures.1

@[simp]
theorem signature_empty
    : empty.signature = "" :=
  rfl

@[simp]
theorem signature_scalar (code : Char) (value : Scalar) (rest : Body)
    : (scalar code value rest).signature = value.signature code ++ rest.signature :=
  rfl

@[simp]
theorem signature_container (code : Char) (items rest : Body)
    : (container code items rest).signature
      = boxSignature code items.firstSignature items.signature ++ rest.signature :=
  rfl

@[simp]
theorem firstSignature_empty
    : empty.firstSignature = "" :=
  rfl

@[simp]
theorem firstSignature_scalar (code : Char) (value : Scalar) (rest : Body)
    : (scalar code value rest).firstSignature = value.signature code :=
  rfl

@[simp]
theorem firstSignature_container (code : Char) (items rest : Body)
    : (container code items rest).firstSignature
      = boxSignature code items.firstSignature items.signature :=
  rfl

@[simp]
theorem empty_append (b : Body)
    : empty ++ b = b :=
  rfl

@[simp]
theorem scalar_append (code : Char) (value : Scalar) (rest b : Body)
    : scalar code value rest ++ b = scalar code value (rest ++ b) :=
  rfl

@[simp]
theorem container_append (code : Char) (items rest b : Body)
    : container code items rest ++ b = container code items (rest ++ b) :=
  rfl

/-- The empty body adds nothing at the end either. -/
@[simp]
theorem append_empty (b : Body)
    : b ++ empty = b := by
  induction b <;> simp_all

/-- Joining bodies is associative. -/
theorem append_assoc (a b c : Body)
    : a ++ b ++ c = a ++ (b ++ c) := by
  induction a <;> simp_all

/-- The lengths of joined bodies add. -/
@[simp]
theorem length_append (a b : Body)
    : (a ++ b).length = a.length + b.length := by
  induction a <;> simp_all [length] <;> omega

end Body

end Custody
