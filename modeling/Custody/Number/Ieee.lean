/-!
IEEE numbers as bit patterns, so that every payload travels unchanged. Numeric equality is told
from the bits: no NaN equals anything, and the two zeros are equal.
-/

namespace Custody

/-- A number of 32 bits, by its bits. -/
structure Single where
  bits : UInt32
deriving DecidableEq, Inhabited

/-- A number of 64 bits, by its bits. -/
structure Double where
  bits : UInt64
deriving DecidableEq, Inhabited

namespace Double

/-- The bits without the sign. -/
def magnitude (d : Double) : UInt64 :=
  d.bits &&& 0x7FFFFFFFFFFFFFFF

/-- Not a number: the largest exponent with a fraction other than zero. -/
def isNaN (d : Double) : Bool :=
  0x7FF0000000000000 < d.magnitude

/-- Equality as numbers. -/
def equals (a b : Double) : Bool :=
  !a.isNaN && !b.isNaN && (a.bits == b.bits || (a.magnitude == 0 && b.magnitude == 0))

end Double

end Custody
