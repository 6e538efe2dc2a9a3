/-!
The two halves of the library, each with an error kind of its own for the use of a released
wrapper.
-/

namespace Custody

/-- The half a wrapper belongs to: data holds the buffers and cursors, bus the messages. -/
inductive Realm
  | data
  | bus
deriving DecidableEq, Inhabited

namespace Realm

/-- The text of the error kind for a released wrapper. -/
def nullHandleText : Realm → String
  | data => "Eina: null handle"
  | bus => "Eldbus: null handle"

/-- How the log names a wrapper of this half. -/
def label : Realm → String
  | data => "eina"
  | bus => "eldbus"

end Realm

end Custody
