import Custody.Buffer

/-!
Why an operation on the bus failed, and the check that every such operation starts with.
-/

namespace Custody

/-- An error of the bus. The codes are those of the types concerned. -/
inductive BusError
  /-- The wrapper has no native object. -/
  | nullHandle
  /-- The native side made no message. -/
  | messageNew
  /-- The native side refused a value for a message. -/
  | appendToMessage (code : Char)
  /-- The native side refused a value for a position inside a body. -/
  | appendToCursor (code : Char)
  /-- A text holds a NUL and cannot be handed over. -/
  | interiorNul
  /-- Only a container can be opened. -/
  | notAContainer (code : Char)
  /-- The native side opened no container. -/
  | containerOpen (code : Char)
  /-- The native side refused to close a container. -/
  | containerClose
  /-- There is no value of this type to be read; NUL stands for the end. -/
  | read (code : Char)
  /-- The native side did not send the message. -/
  | send
  /-- A buffer could not be made. -/
  | buffer (error : BufferError)
deriving DecidableEq, Inhabited

namespace BusError

/-- A type code in quotes. -/
def quoted (code : Char) : String :=
  "'" ++ code.toString ++ "'"

/-- The text of an error. -/
def message : BusError → String
  | nullHandle => "operation on a released eldbus handle"
  | messageNew => "could not create eldbus message"
  | appendToMessage code => "could not append basic type " ++ quoted code ++ " to eldbus message"
  | appendToCursor code =>
      "could not append basic type " ++ quoted code ++ " to eldbus message iterator"
  | interiorNul => "text argument contains an interior NUL byte"
  | notAContainer code => quoted code ++ " is not a container type"
  | containerOpen code => "could not open " ++ quoted code ++ " container"
  | containerClose => "could not close container"
  | read code => "could not read " ++ quoted code ++ " from eldbus message iterator"
  | send => "could not send eldbus message"
  | buffer error => error.message

end BusError

/-- The object behind a pointer; a null pointer is reported and is an error. -/
def State.live {α : Type} (s : State) : Option (Ref α) → Attempt BusError (Ref α)
  | some r => (.ok r, s)
  | none => (.error .nullHandle, s.raiseNullHandle .bus)

end Custody
