import Custody.Deferred
import Custody.ErrorTable

/-!
The ownership token of a native object. It frees its object at most once: every path that frees
gives up the reference first, so that nothing is left for a second.
-/

namespace Custody

/-- A kind of native object that can be freed. -/
class Freeable (α : Type) where
  /-- The free of one object. -/
  handle : Ref α → NativeHandle

instance : Freeable Native.Buffer := ⟨.buffer⟩
instance : Freeable Native.Cursor := ⟨.cursor⟩
instance : Freeable Native.Message := ⟨.message⟩

/-- A reference to a native object, or null, and whether the token answers for its free. The
flag outlives the reference.
-/
structure Handle (α : Type) where
  raw : Option (Ref α) := none
  own : Bool := false
deriving DecidableEq

namespace Handle

variable {α : Type}

/-- The token without an object. -/
def null : Handle α := {}

instance : Inhabited (Handle α) := ⟨null⟩

/-- Whether the token has no object. -/
def isNull (h : Handle α) : Bool :=
  h.raw.isNone

/-- Gives up the reference without freeing the object. -/
def release (h : Handle α) : Option (Ref α) × Handle α :=
  (h.raw, { h with raw := none })

variable [Freeable α]

/-- What the token would have to free. -/
def owed (h : Handle α) : Option NativeHandle :=
  if h.own then h.raw.map Freeable.handle else none

/-- Frees the object now if it is owned. -/
def dispose (h : Handle α) (s : State) : Handle α × State :=
  (h.release.2, h.owed.elim s s.free)

/-- The end of the token: an owned object is freed where that may be, or later. -/
def drop (h : Handle α) (s : State) : State :=
  s.schedulePointer h.owed

/-- Goes on with the object of a live token; a token without one is reported, and the fallback
answered.
-/
def use {β : Type} (h : Handle α) (realm : Realm) (fallback : β)
    (act : Ref α → State → β × State) (s : State) : β × State :=
  match h.raw with
  | some r => act r s
  | none => (fallback, s.raiseNullHandle realm)

end Handle

end Custody
