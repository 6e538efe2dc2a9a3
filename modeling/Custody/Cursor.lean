import Custody.Element

/-!
Single-pass cursors over native elements, typed by what the elements are. Several wrappers may
share one native cursor; each stops for good once it has seen the end.
-/

namespace Custody

/-- A wrapper of a native cursor over elements of one kind. -/
structure Cursor (k : ElementKind) where
  handle : Handle Native.Cursor
  exhausted : Bool := false
deriving DecidableEq, Inhabited

namespace State

/-- Counts a call for the next element, and hands it out if there is one. -/
def nextElement (s : State) (r : Ref Native.Cursor) : Option Native.Element × State :=
  let c := { s.cursor r with nextCalls := (s.cursor r).nextCalls + 1 }
  match c.rest with
  | [] => (none, s.setCursor r c)
  | e :: rest => (some e, s.setCursor r { c with rest })

end State

namespace Cursor

variable {k : ElementKind}

/-- A wrapper of a native cursor, owned or not. -/
def ofRaw (raw : Option (Ref Native.Cursor)) (own : Bool) : Cursor k :=
  { handle := { raw, own } }

/-- The next value. A wrapper that saw the end, or has no cursor, answers none without asking. -/
def next (c : Cursor k) (s : State) : Option k.Carrier × Cursor k × State :=
  if c.exhausted then (none, c, s)
  else
    match c.handle.raw with
    | none => (none, c, s)
    | some r =>
        match s.nextElement r with
        | (some e, s) => (some (k.read e), c, s)
        | (none, s) => (none, { c with exhausted := true }, s)

/-- The next `n` values, or those there are. -/
def take : Nat → Cursor k → State → List k.Carrier × Cursor k × State
  | 0, c, s => ([], c, s)
  | n + 1, c, s =>
      match c.next s with
      | (none, c, s) => ([], c, s)
      | (some v, c, s) =>
          let (vs, c, s) := take n c s
          (v :: vs, c, s)

/-- The number of elements still to come. -/
def remaining (c : Cursor k) (s : State) : Nat :=
  c.handle.raw.elim 0 fun r => (s.cursor r).rest.length

/-- All values to the end; the wrapper ends with them. -/
def collect (c : Cursor k) (s : State) : List k.Carrier × State :=
  let (vs, c, s) := take (c.remaining s + 1) c s
  (vs, c.handle.drop s)

/-- Locks the container of the elements. -/
def lock (c : Cursor k) : State → Bool × State :=
  c.handle.use .data false fun r s => (true, s.setCursor r { s.cursor r with locked := true })

/-- Unlocks the container of the elements; answers whether it was locked. -/
def unlock (c : Cursor k) : State → Bool × State :=
  c.handle.use .data false fun r s =>
    ((s.cursor r).locked, s.setCursor r { s.cursor r with locked := false })

/-- The container of the elements, if there is one. -/
def container (c : Cursor k) : State → Option (Ref Native.Cursor) × State :=
  c.handle.use .data none fun r s => (some r, s)

end Cursor

end Custody
