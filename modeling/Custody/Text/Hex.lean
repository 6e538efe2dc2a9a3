/-!
Bytes and bit patterns in hexadecimal, most significant digit first.
-/

namespace Custody.Hex

/-- The last `width` digits of a number, as letters. -/
def digitChars : Nat → Nat → List Char
  | 0, _ => []
  | width + 1, n => digitChars width (n / 16) ++ [Nat.digitChar (n % 16)]

/-- The last `width` digits of a number. -/
def digits (width n : Nat) : String :=
  String.ofList (digitChars width n)

/-- Two digits for each byte. -/
def ofBytes (bytes : List UInt8) : String :=
  String.join (bytes.map fun b => digits 2 b.toNat)

/-- The value of a digit, in either case. -/
def value? (c : Char) : Option Nat :=
  if c.isDigit then some (c.toNat - 48)
  else if 'a' ≤ c && c ≤ 'f' then some (c.toNat - 87)
  else if 'A' ≤ c && c ≤ 'F' then some (c.toNat - 55)
  else none

/-- The number that digits spell. -/
def number? (s : String) : Option Nat :=
  (s.toList.mapM value?).map (·.foldl (fun n d => 16 * n + d) 0)

/-- The bytes that pairs of digits spell. -/
def pairs? : List Char → Option (List UInt8)
  | [] => some []
  | high :: low :: rest =>
      match value? high, value? low, pairs? rest with
      | some a, some b, some bytes => some (UInt8.ofNat (16 * a + b) :: bytes)
      | _, _, _ => none
  | [_] => none

/-- The bytes that a text spells. -/
def bytes? (s : String) : Option (List UInt8) :=
  pairs? s.toList

end Custody.Hex
