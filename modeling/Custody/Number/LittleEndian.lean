/-!
Unsigned numbers in memory, least significant byte first. Main statement: reading a number back
gives its residue modulo the width written.
-/

namespace Custody.LittleEndian

/-- The `width` low bytes of `n`, least significant first. -/
def encode : Nat → Nat → List UInt8
  | 0, _ => []
  | width + 1, n => UInt8.ofNat n :: encode width (n / 256)

/-- The number that a sequence of bytes spells. -/
def decode : List UInt8 → Nat
  | [] => 0
  | b :: rest => b.toNat + 256 * decode rest

/-- The number at the start of a stretch of memory, `width` bytes wide. -/
def read (width : Nat) (memory : List UInt8) : Nat :=
  decode (memory.take width)

/-- How many numbers `width` bytes tell apart. -/
def span : Nat → Nat
  | 0 => 1
  | width + 1 => 256 * span width

/-- Exactly the requested number of bytes is written. -/
@[simp]
theorem length_encode (width n : Nat)
    : (encode width n).length = width := by
  induction width generalizing n with
  | zero => rfl
  | succ width ih => simp [encode, ih]

/-- Reading what was written keeps the number modulo the width. -/
theorem decode_encode (width n : Nat)
    : decode (encode width n) = n % span width := by
  induction width generalizing n with
  | zero => simp [encode, decode, span, Nat.mod_one]
  | succ width ih =>
      have low : (UInt8.ofNat n).toNat = n % 256 := by simp
      rw [encode, decode, ih, low, span, Nat.mod_mul]

end Custody.LittleEndian
