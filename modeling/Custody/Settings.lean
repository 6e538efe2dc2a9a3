import Custody.Text.Utf8
import Custody.Text.Blank

/-!
Settings of the process, read once from three environment variables. A variable that is absent,
is not UTF-8 or does not spell a value of its kind leaves its setting at the default.
-/

namespace Custody

/-- What the environment holds for each variable, as bytes. -/
structure Variables where
  deferAll : Option (List UInt8) := none
  deferWarn : Option (List UInt8) := none
  logFilter : Option (List UInt8) := none
deriving DecidableEq, Inhabited

/-- The settings: whether every drop is queued, the queue length that draws a warning, and the
filter of the log.
-/
structure Settings where
  deferAll : Bool := false
  deferWarn : Nat := 4096
  logFilter : String := "warn"
deriving DecidableEq, Inhabited

namespace Settings

/-- The names of the three variables, in the order of the settings. -/
def variableNames : List String :=
  ["EFL_NATIVE_DEFER_ALL", "EFL_NATIVE_DEFER_WARN", "EFL_NATIVE_LOG"]

/-- The spellings of a switch, blanks at the ends ignored. -/
def switch? (s : String) : Option Bool :=
  let word := Blank.trim s
  if word ∈ ["1", "true", "TRUE", "yes", "YES"] then some true
  else if word ∈ ["0", "false", "FALSE", "no", "NO"] then some false
  else none

/-- The number that decimal digits spell. -/
def decimal (digits : List Char) : Nat :=
  digits.foldl (fun n c => 10 * n + (c.toNat - '0'.toNat)) 0

/-- An unsigned number in decimal, with one plus sign allowed before its digits. -/
def unsigned? (chars : List Char) : Option Nat :=
  let digits := match chars with
    | '+' :: rest => rest
    | _ => chars
  if !digits.isEmpty && digits.all Char.isDigit then some (decimal digits) else none

/-- A count from 1 to the largest number of 32 bits, blanks at the ends ignored. -/
def count? (s : String) : Option Nat :=
  (unsigned? (Blank.trim s).toList).filter fun n => 1 ≤ n && n < UInt32.size

/-- A text with something besides blanks, without the blanks at its ends. -/
def filled? (s : String) : Option String :=
  let word := Blank.trim s
  if word = "" then none else some word

/-- The settings that an environment asks for. -/
def ofVariables (v : Variables) : Settings where
  deferAll := ((v.deferAll.bind Utf8.decode?).bind switch?).getD false
  deferWarn := ((v.deferWarn.bind Utf8.decode?).bind count?).getD 4096
  logFilter := ((v.logFilter.bind Utf8.decode?).bind filled?).getD "warn"

end Settings

end Custody
