import Custody.State

/-!
The native error channel: a table of error texts that only grows, a last error per thread, and
error kinds that take their number from the table on first use.
-/

namespace Custody

/-- A native error number. -/
abbrev ErrorNumber := Int32

namespace State

/-- Adds an error text to the table; its number is its place, counted from one. -/
def registerError (text : List UInt8) (s : State) : ErrorNumber × State :=
  let errors := s.world.errors ++ [text.takeWhile (· != 0)]
  (Int32.ofNat errors.length, { s with world := { s.world with errors } })

/-- The text of an error number, if that number was given out. -/
def errorText (number : ErrorNumber) (s : State) : Option String :=
  if 0 < number then (s.world.errors[number.toInt.toNat - 1]?).map Utf8.decode else none

/-- The number of times a text was registered. -/
def registrations (text : String) (s : State) : Nat :=
  s.world.errors.count (Utf8.encode text)

/-- Makes a number the last error of the calling thread. -/
def raise (number : ErrorNumber) (s : State) : State :=
  { s with thread := { s.thread with lastError := number } }

/-- Forgets the last error of the calling thread. -/
def clearError (s : State) : State :=
  s.raise 0

/-- The last error of the calling thread, if any. -/
def lastError (s : State) : Option ErrorNumber :=
  if s.thread.lastError = 0 then none else some s.thread.lastError

/-- Makes an error kind that has no number yet. -/
def newKind (text : List UInt8) (s : State) : Ref LazyKind × State :=
  ((s.world.kinds.alloc { text }).1,
    { s with world := { s.world with kinds := (s.world.kinds.alloc { text }).2 } })

/-- The number of an error kind, which it takes on first use and keeps. -/
def kindNumber (kind : Ref LazyKind) (s : State) : ErrorNumber × State :=
  match (s.world.kinds.get kind).number with
  | some number => (number, s)
  | none =>
      let text := (s.world.kinds.get kind).text
      let (number, s) := s.registerError text
      let kinds := s.world.kinds.put kind { text, number := some number }
      (number, { s with world := { s.world with kinds } }.note .kindRegistered)

/-- Raises an error kind; answers its number. -/
def raiseKind (kind : Ref LazyKind) (s : State) : ErrorNumber × State :=
  let (number, s) := s.kindNumber kind
  (number, s.raise number)

end State

namespace Realm

/-- The error kind for a released wrapper of this half. -/
def nullHandleKind : Realm → Ref LazyKind
  | data => ⟨0⟩
  | bus => ⟨1⟩

end Realm

namespace State

/-- Reports the use of a released wrapper, in the log and as the last error. -/
def raiseNullHandle (realm : Realm) (s : State) : State :=
  ((s.note (.usedAfterRelease realm)).raiseKind realm.nullHandleKind).2

/-- The state before the first call: no objects, and the two kinds for released wrappers without
a number.
-/
def blank (settings : Settings) : State :=
  { world :=
      { settings
        kinds := ⟨[{ text := Utf8.encode Realm.data.nullHandleText },
          { text := Utf8.encode Realm.bus.nullHandleText }]⟩ } }

/-- The state in which both kinds for released wrappers have taken their number, and nothing
else has happened.
-/
def start (settings : Settings) : State :=
  let s := ((blank settings).kindNumber Realm.data.nullHandleKind).2
  let s := (s.kindNumber Realm.bus.nullHandleKind).2
  { s with world := { s.world with log := [] } }

end State

end Custody
