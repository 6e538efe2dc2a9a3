/-!
UTF-8: the bytes of a text, and texts read from bytes that need not be well formed.
Reading splits the bytes into pieces, each a character or a longest ill-formed start of one.
-/

namespace Custody.Utf8

/-- The UTF-8 bytes of a text. -/
def encode (s : String) : List UInt8 :=
  s.toList.flatMap String.utf8EncodeChar

/-- A byte that can only continue a character. -/
def isTail (b : UInt8) : Bool :=
  0x80 ≤ b && b ≤ 0xBF

/-- How many bytes follow `lead` in a well-formed character; zero for a byte that starts no
character of more than one byte.
-/
def tailCount (lead : UInt8) : Nat :=
  if 0xC2 ≤ lead && lead ≤ 0xDF then 1
  else if 0xE0 ≤ lead && lead ≤ 0xEF then 2
  else if 0xF0 ≤ lead && lead ≤ 0xF4 then 3
  else 0

/-- The second byte is narrower than a tail where it would spell an overlong form, a surrogate
or a value past the last code point.
-/
def fitsSecond (lead second : UInt8) : Bool :=
  if lead = 0xE0 then 0xA0 ≤ second && second ≤ 0xBF
  else if lead = 0xED then 0x80 ≤ second && second ≤ 0x9F
  else if lead = 0xF0 then 0x90 ≤ second && second ≤ 0xBF
  else if lead = 0xF4 then 0x80 ≤ second && second ≤ 0x8F
  else isTail second

/-- The bytes after `lead` that continue its character, as far as they do. -/
def tails (lead : UInt8) (rest : List UInt8) : List UInt8 :=
  match rest.take (tailCount lead) with
  | [] => []
  | second :: more => if fitsSecond lead second then second :: more.takeWhile isTail else []

/-- The character that a lead byte and all its tails spell: six bits from each tail, and one bit
less from the lead for each of them.
-/
def assemble (lead : UInt8) (ts : List UInt8) : Char :=
  Char.ofNat (ts.foldl (fun acc b => acc * 64 + b.toNat % 64) (lead.toNat % (64 >>> ts.length)))

/-- The piece that starts with `lead`: its character, or `none` when ill formed, and how many
of the following bytes belong to it.
-/
def scan (lead : UInt8) (rest : List UInt8) : Option Char × Nat :=
  if lead < 0x80 then (some (Char.ofNat lead.toNat), 0)
  else if tailCount lead = 0 then (none, 0)
  else
    let ts := tails lead rest
    if ts.length = tailCount lead then (some (assemble lead ts), ts.length) else (none, ts.length)

/-- The pieces of a byte sequence, in order. -/
def pieces : List UInt8 → List (Option Char)
  | [] => []
  | lead :: rest => (scan lead rest).1 :: pieces (rest.drop (scan lead rest).2)
termination_by bytes => bytes.length
decreasing_by simp only [List.length_drop, List.length_cons]; omega

/-- Reads any bytes as text, with U+FFFD in place of each ill-formed piece. -/
def decode (bytes : List UInt8) : String :=
  String.ofList ((pieces bytes).map (·.getD '\uFFFD'))

/-- Reads bytes as text only when every piece is a character. -/
def decode? (bytes : List UInt8) : Option String :=
  ((pieces bytes).mapM id).map String.ofList

end Custody.Utf8
