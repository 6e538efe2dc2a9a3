import Custody.Text.Utf8

/-!
Text in memory that ends at its first zero byte. A text that holds a NUL cannot be stored so;
where the native side is given one all the same, it keeps the empty text.
-/

namespace Custody.ZeroTerminated

/-- The text at the start of a stretch of memory. -/
def read (memory : List UInt8) : String :=
  Utf8.decode (memory.takeWhile (· != 0))

/-- The text behind a pointer; a null pointer reads as empty. -/
def readPointer (memory : Option (List UInt8)) : String :=
  memory.elim "" read

/-- Whether a text holds no NUL, so that all of it can be stored. -/
def fits (s : String) : Bool :=
  s.toList.all (· != '\x00')

/-- What is stored of a text: all of it, or nothing. -/
def kept (s : String) : String :=
  if fits s then s else ""

/-- The bytes of a stored text, with its terminator. -/
def memory (s : String) : List UInt8 :=
  Utf8.encode (kept s) ++ [0]

/-- A stored text never holds a NUL. -/
theorem fits_kept (s : String)
    : fits (kept s) = true := by
  unfold kept
  split
  · assumption
  · rfl

end Custody.ZeroTerminated
