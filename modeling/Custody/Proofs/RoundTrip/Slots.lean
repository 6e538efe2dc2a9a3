import Custody.Argument
import Custody.Proofs.Reading.Letters

/-! A value of a basic type survives its storage. A number is stored widened to 64 bits and found
again by its low bits; a text that can be handed over is stored whole.
-/

namespace Custody

/-- The low bits of a sign-extended number are the number. -/
theorem setWidth_signExtend {n : Nat} (v : BitVec n) (m : Nat) (wider : n ≤ m)
    : (v.signExtend m).setWidth n = v := by
  apply BitVec.eq_of_getLsbD_eq
  intro i small
  have inside : i < m := Nat.lt_of_lt_of_le small wider
  rw [BitVec.getLsbD_setWidth, BitVec.getLsbD_signExtend]
  simp [small, inside]

theorem toUInt8_widened (v : UInt8)
    : (Int64.ofNat v.toNat).toUInt64.toUInt8 = v := by
  apply UInt8.toNat_inj.1
  simp

theorem toUInt16_widened (v : UInt16)
    : (Int64.ofNat v.toNat).toUInt64.toUInt16 = v := by
  apply UInt16.toNat_inj.1
  simp

theorem toInt16_widened (v : Int16)
    : v.toInt64.toUInt64.toUInt16.toInt16 = v := by
  apply Int16.toBitVec_inj.1
  exact setWidth_signExtend v.toBitVec 64 (by decide)

theorem toInt32_widened (v : Int32)
    : v.toInt64.toUInt64.toUInt32.toInt32 = v := by
  apply Int32.toBitVec_inj.1
  exact setWidth_signExtend v.toBitVec 64 (by decide)

theorem Scalar.slot?_int (code : Char) (value : Int64)
    (letter : code ∈ ['y', 'n', 'q', 'i', 'h', 'u', 'x', 't'])
    : (Scalar.int value).slot? code = some (.word value.toUInt64) := by
  have notFlag : code ≠ 'b' := by
    rintro rfl
    simp at letter
  simp only [slot?, slot?.ofWord, notFlag, letter, if_true, if_false]

theorem Scalar.slot?_uint (code : Char) (value : UInt64)
    (letter : code ∈ ['y', 'n', 'q', 'i', 'h', 'u', 'x', 't'])
    : (Scalar.uint value).slot? code = some (.word value) := by
  have notFlag : code ≠ 'b' := by
    rintro rfl
    simp at letter
  simp only [slot?, slot?.ofWord, notFlag, letter, if_true, if_false]

theorem Scalar.slot?_text (code : Char) {s : String} (letter : code ∈ ['s', 'o', 'g'])
    (fit : ZeroTerminated.fits s = true)
    : (Scalar.text s).slot? code = some (.text s) := by
  simp only [slot?, letter, if_true, ZeroTerminated.kept_of_fits fit]

theorem Argument.ofSlot?_of_slot {a : Argument} {slot : Slot}
    (found : a.scalar.slot? a.code = some slot) (made : ofSlot? a.type slot = some a)
    : (a.scalar.slot? a.code).bind (ofSlot? a.type) = some a := by
  rw [found]
  exact made

/-- What was stored of a value, read as a value of its type, is the value. -/
theorem Argument.ofSlot?_scalar (a : Argument) (fit : a.fits = true)
    : (a.scalar.slot? a.code).bind (ofSlot? a.type) = some a := by
  cases a with
  | byte v =>
      have found := Scalar.slot?_int 'y' (Int64.ofNat v.toNat) (by decide)
      exact ofSlot?_of_slot found (congrArg (some ∘ byte) (toUInt8_widened v))
  | boolean v => cases v <;> rfl
  | int16 v =>
      have found := Scalar.slot?_int 'n' v.toInt64 (by decide)
      exact ofSlot?_of_slot found (congrArg (some ∘ int16) (toInt16_widened v))
  | uint16 v =>
      have found := Scalar.slot?_int 'q' (Int64.ofNat v.toNat) (by decide)
      exact ofSlot?_of_slot found (congrArg (some ∘ uint16) (toUInt16_widened v))
  | int32 v =>
      have found := Scalar.slot?_int 'i' v.toInt64 (by decide)
      exact ofSlot?_of_slot found (congrArg (some ∘ int32) (toInt32_widened v))
  | uint32 v =>
      have found := Scalar.slot?_uint 'u' v.toUInt64 (by decide)
      exact ofSlot?_of_slot found (congrArg (some ∘ uint32) (UInt32.toUInt32_toUInt64 v))
  | int64 v =>
      have found := Scalar.slot?_int 'x' v (by decide)
      exact ofSlot?_of_slot found (congrArg (some ∘ int64) (Int64.toInt64_toUInt64 v))
  | uint64 v =>
      have found := Scalar.slot?_uint 't' v (by decide)
      exact ofSlot?_of_slot found rfl
  | double v => rfl
  | string s =>
      have found := Scalar.slot?_text 's' (by decide) fit
      exact ofSlot?_of_slot found rfl
  | objectPath p =>
      have found := Scalar.slot?_text 'o' (by decide) fit
      exact ofSlot?_of_slot found rfl
  | signature g =>
      have found := Scalar.slot?_text 'g' (by decide) fit
      exact ofSlot?_of_slot found rfl
  | unixFd fd =>
      have found := Scalar.slot?_int 'h' fd.number.toInt64 (by decide)
      exact ofSlot?_of_slot found (congrArg (fun n => some (unixFd ⟨n⟩)) (toInt32_widened fd.number))

end Custody
