import Custody.Proofs.ByteLists.Reference
import Mathlib.Data.List.GetD

/-! Many wrappers and views of buffers, which any threads make, use, hand on and end in any order, and
beside them wrappers and views of byte lists with the same tasks. The byte lists know no native memory: a
wrapper is no more than the name of one, and a free is nothing.
-/

namespace Custody

/-- A task of one thread. Wrappers and views are told by their places in the order of making; a place
without one is that of a wrapper or view without a buffer.
-/
inductive Task
  /-- The native side makes a buffer that no wrapper knows. -/
  | nativeBuffer
  | new
  | ofBytes (bytes : List UInt8)
  | ofBytesLen (bytes : List UInt8) (n : Nat)
  | copy (source : Nat)
  | copyView (view : Nat)
  /-- Wraps a pointer; one that leads to no buffer is taken for null. -/
  | adopt (raw : Option (Ref Native.Buffer)) (own : Bool)
  /-- Makes a view of a pointer; one that leads to no buffer is taken for null. -/
  | lookAt (raw : Option (Ref Native.Buffer))
  | view (place : Nat)
  | setOwn (place : Nat) (own : Bool)
  | release (place : Nat)
  | dispose (place : Nat)
  | drop (place : Nat)
  | edit (place : Nat) (e : Edit Nat)
  | reset (place : Nat)
  | freeContents (place : Nat)
  | ask (place : Nat) (q : Question)
  | look (view : Nat) (q : Question)
  | flush
  | flushTask
  | setMainLoop (on : Bool)
  | failNextAlloc
  | failNextWrite
  | failNextWriteTo (raw : Option (Ref Native.Buffer))

-----------------------------------------------------------------------------------------
-- Wrappers of buffers
-----------------------------------------------------------------------------------------

/-- The records of all threads, the world they share, the wrappers and views made so far, and the
answers so far. A wrapper that ended leaves one without a buffer in its place.
-/
structure BufferWrappers where
  threads : Nat → Thread
  world : World
  wrappers : List Buffer := []
  views : List BufferView := []
  replies : List Reply := []

namespace BufferWrappers

/-- Before the first task there are no objects and no wrappers. -/
def start (settings : Settings) (threads : Nat → Thread) : BufferWrappers :=
  { threads, world := (State.blank settings).world }

variable (σ : BufferWrappers) (i : Nat)

/-- The state in which a thread runs. -/
def state : State :=
  { thread := σ.threads i, world := σ.world }

/-- A thread changed the state. -/
def put (s : State) : BufferWrappers :=
  { σ with
    threads := fun j => if j = i then s.thread else σ.threads j
    world := s.world }

def reply (r : Reply) : BufferWrappers :=
  { σ with replies := σ.replies ++ [r] }

def wrapper (place : Nat) : Buffer :=
  σ.wrappers.getD place Handle.null

def view (place : Nat) : BufferView :=
  σ.views.getD place ⟨none⟩

/-- A pointer to a buffer that was made, or null. -/
def pointer (raw : Option (Ref Native.Buffer)) : Option (Ref Native.Buffer) :=
  raw.filter (·.index < σ.world.buffers.size)

def addWrapper (b : Buffer) : BufferWrappers :=
  { σ with wrappers := σ.wrappers ++ [b] }

def setWrapper (place : Nat) (b : Buffer) : BufferWrappers :=
  { σ with wrappers := σ.wrappers.set place b }

def addView (v : BufferView) : BufferWrappers :=
  { σ with views := σ.views ++ [v] }

/-- Keeps the wrapper that was made, if it was. -/
def keep (made : Attempt BufferError Buffer) : BufferWrappers :=
  match made with
  | (.ok b, s) => ((σ.put i s).addWrapper b).reply (.outcome none)
  | (.error e, s) => (σ.put i s).reply (.outcome (some e))

/-- Goes on in the state after an operation, and replies with its answer. -/
def answer {α : Type} (ran : α × State) (reply : α → Reply) : BufferWrappers :=
  (σ.put i ran.2).reply (reply ran.1)

def perform : Task → BufferWrappers
  | .nativeBuffer => σ.answer i (σ.state i).newBuffer .pointer
  | .new => σ.keep i (Buffer.new (σ.state i))
  | .ofBytes bytes => σ.keep i (Buffer.ofBytes bytes (σ.state i))
  | .ofBytesLen bytes n => σ.keep i (Buffer.ofBytesLen bytes n (σ.state i))
  | .copy source => σ.keep i ((σ.wrapper source).copy (σ.state i))
  | .copyView view => σ.keep i ((σ.view view).toBuffer (σ.state i))
  | .adopt raw own => (σ.addWrapper { raw := σ.pointer raw, own }).reply .done
  | .lookAt raw => (σ.addView ⟨σ.pointer raw⟩).reply .done
  | .view place => (σ.addView (σ.wrapper place).view).reply .done
  | .setOwn place own => (σ.setWrapper place { σ.wrapper place with own }).reply .done
  | .release place =>
      (σ.setWrapper place (σ.wrapper place).release.2).reply (.pointer (σ.wrapper place).release.1)
  | .dispose place =>
      ((σ.put i ((σ.wrapper place).dispose (σ.state i)).2).setWrapper place
        ((σ.wrapper place).dispose (σ.state i)).1).reply .done
  | .drop place =>
      ((σ.put i ((σ.wrapper place).drop (σ.state i))).setWrapper place Handle.null).reply .done
  | .edit place e => σ.answer i ((e.map σ.wrapper).run (σ.wrapper place) (σ.state i)) .flag
  | .reset place => (σ.put i ((σ.wrapper place).reset (σ.state i))).reply .done
  | .freeContents place => (σ.put i ((σ.wrapper place).freeContents (σ.state i))).reply .done
  | .ask place q => σ.answer i (q.ask (σ.wrapper place) (σ.state i)) id
  | .look view q => σ.reply (q.look (σ.view view) (σ.state i))
  | .flush => (σ.put i (σ.state i).flush.2).reply .done
  | .flushTask => (σ.put i (σ.state i).flushTask.2).reply .done
  | .setMainLoop on => (σ.put i { σ.state i with thread.onMainLoop := on }).reply .done
  | .failNextAlloc => (σ.put i (σ.state i).failNextAlloc).reply .done
  | .failNextWrite => (σ.put i (σ.state i).failNextWrite).reply .done
  | .failNextWriteTo raw =>
      (σ.put i ((σ.pointer raw).elim (σ.state i) (σ.state i).failNextWriteTo)).reply .done

def step (σ : BufferWrappers) (e : Nat × Task) : BufferWrappers :=
  σ.perform e.1 e.2

def run (σ : BufferWrappers) (es : List (Nat × Task)) : BufferWrappers :=
  es.foldl step σ

end BufferWrappers

-----------------------------------------------------------------------------------------
-- Wrappers of byte lists
-----------------------------------------------------------------------------------------

/-- The failures that wait for a thread: of its next making, and of its next change. -/
structure Failures where
  make : Bool
  change : Bool

/-- How many byte lists there are, what is in them, the failures that wait for the threads, the lists that
wrappers and views name, and the answers so far.
-/
@[ext]
structure ByteListWrappers where
  made : Nat := 0
  byteList : Ref Native.Buffer → ByteList := fun _ => {}
  failures : Nat → Failures
  wrappers : List (Option (Ref Native.Buffer)) := []
  views : List (Option (Ref Native.Buffer)) := []
  replies : List Reply := []

namespace ByteListWrappers

variable (τ : ByteListWrappers) (i : Nat)

/-- The byte lists as a thread finds them. -/
def byteLists : ByteLists where
  made := τ.made
  byteList := τ.byteList
  failMake := (τ.failures i).make
  failChange := (τ.failures i).change

/-- A thread changed the byte lists. -/
def put (p : ByteLists) : ByteListWrappers :=
  { τ with
    made := p.made
    byteList := p.byteList
    failures := fun j => if j = i then ⟨p.failMake, p.failChange⟩ else τ.failures j }

def reply (r : Reply) : ByteListWrappers :=
  { τ with replies := τ.replies ++ [r] }

def wrapper (place : Nat) : Option (Ref Native.Buffer) :=
  τ.wrappers.getD place none

def view (place : Nat) : Option (Ref Native.Buffer) :=
  τ.views.getD place none

/-- The bytes of a byte list, if one is named. -/
def bytes? : Option (Ref Native.Buffer) → Option (List UInt8) :=
  Option.map fun r => (τ.byteList r).bytes

/-- The name of a byte list that was made, or none. -/
def pointer (raw : Option (Ref Native.Buffer)) : Option (Ref Native.Buffer) :=
  raw.filter (·.index < τ.made)

def addWrapper (name : Option (Ref Native.Buffer)) : ByteListWrappers :=
  { τ with wrappers := τ.wrappers ++ [name] }

def setWrapper (place : Nat) (name : Option (Ref Native.Buffer)) : ByteListWrappers :=
  { τ with wrappers := τ.wrappers.set place name }

def addView (name : Option (Ref Native.Buffer)) : ByteListWrappers :=
  { τ with views := τ.views ++ [name] }

/-- Keeps the name of the byte list that was made, if it was. -/
def keep (made : Except BufferError (Ref Native.Buffer) × ByteLists) : ByteListWrappers :=
  match made with
  | (.ok r, p) => ((τ.put i p).addWrapper (some r)).reply (.outcome none)
  | (.error e, p) => (τ.put i p).reply (.outcome (some e))

def answer {α : Type} (ran : α × ByteLists) (reply : α → Reply) : ByteListWrappers :=
  (τ.put i ran.2).reply (reply ran.1)

def perform : Task → ByteListWrappers
  | .nativeBuffer => τ.answer i (τ.byteLists i).make .pointer
  | .new => τ.keep i (τ.byteLists i).new
  | .ofBytes bytes => τ.keep i ((τ.byteLists i).build (.append bytes))
  | .ofBytesLen bytes n => τ.keep i ((τ.byteLists i).build (.appendLen bytes n))
  | .copy source => τ.keep i ((τ.byteLists i).build (.appendBuffer (τ.wrapper source)))
  | .copyView view =>
      τ.keep i ((τ.byteLists i).build (.append ((τ.bytes? (τ.view view)).getD [])))
  | .adopt raw _ => (τ.addWrapper (τ.pointer raw)).reply .done
  | .lookAt raw => (τ.addView (τ.pointer raw)).reply .done
  | .view place => (τ.addView (τ.wrapper place)).reply .done
  | .release place => (τ.setWrapper place none).reply (.pointer (τ.wrapper place))
  | .dispose place | .drop place => (τ.setWrapper place none).reply .done
  | .edit place e => τ.answer i ((τ.byteLists i).edit (τ.wrapper place) (e.map τ.wrapper)) .flag
  | .reset place | .freeContents place =>
      (τ.put i ((τ.byteLists i).clear (τ.wrapper place))).reply .done
  | .ask place q => τ.reply (q.answer (τ.bytes? (τ.wrapper place)))
  | .look view q => τ.reply (q.answer (τ.bytes? (τ.view view)))
  | .setOwn _ _ | .flush | .flushTask | .setMainLoop _ => τ.reply .done
  | .failNextAlloc => (τ.put i { τ.byteLists i with failMake := true }).reply .done
  | .failNextWrite => (τ.put i { τ.byteLists i with failChange := true }).reply .done
  | .failNextWriteTo raw => (τ.put i ((τ.byteLists i).failNextChange (τ.pointer raw))).reply .done

def step (τ : ByteListWrappers) (e : Nat × Task) : ByteListWrappers :=
  τ.perform e.1 e.2

def run (τ : ByteListWrappers) (es : List (Nat × Task)) : ByteListWrappers :=
  es.foldl step τ

-----------------------------------------------------------------------------------------
-- Names
-----------------------------------------------------------------------------------------

variable {τ υ : ByteListWrappers} {i : Nat}

/-- The second has the byte lists of the first one, and names none that is not there, unless the first one
did.
-/
structure Extends (τ υ : ByteListWrappers) : Prop where
  made : τ.made ≤ υ.made
  wrappers : ∀ place r, υ.wrapper place = some r → τ.wrapper place = some r ∨ r.index < υ.made

theorem extends_put {p : ByteLists} (more : τ.made ≤ p.made)
    : τ.Extends (τ.put i p) :=
  ⟨more, fun _ _ => .inl⟩

theorem Extends.reply (extended : τ.Extends υ) (r : Reply)
    : τ.Extends (υ.reply r) :=
  ⟨extended.made, extended.wrappers⟩

theorem Extends.addView (extended : τ.Extends υ) (name : Option (Ref Native.Buffer))
    : τ.Extends (υ.addView name) :=
  ⟨extended.made, extended.wrappers⟩

theorem Extends.addWrapper (extended : τ.Extends υ) {name : Option (Ref Native.Buffer)}
    (made : ∀ r, name = some r → r.index < υ.made)
    : τ.Extends (υ.addWrapper name) := by
  refine ⟨extended.made, fun place r named => ?_⟩
  change (υ.wrappers ++ [name]).getD place none = some r at named
  by_cases old : place < υ.wrappers.length
  · rw [List.getD_append _ _ _ _ old] at named
    exact extended.wrappers place r named
  · rw [List.getD_append_right _ _ _ _ (Nat.le_of_not_lt old)] at named
    cases new : place - υ.wrappers.length with
    | zero =>
        rw [new] at named
        exact .inr (made r named)
    | succ => simp [new] at named

theorem extends_setWrapper (τ : ByteListWrappers) (place : Nat)
    : τ.Extends (τ.setWrapper place none) := by
  refine ⟨Nat.le_refl _, fun other r named => ?_⟩
  change (τ.wrappers.set place none).getD other none = some r at named
  rw [List.getD_eq_getElem?_getD, List.getElem?_set] at named
  split at named
  · split at named <;> contradiction
  · exact .inl (by rw [← named, wrapper, List.getD_eq_getElem?_getD])

theorem extends_keep {made : Except BufferError (Ref Native.Buffer) × ByteLists}
    (more : τ.made ≤ made.2.made ∧ ∀ r, made.1 = .ok r → r.index < made.2.made)
    : τ.Extends (τ.keep i made) := by
  obtain ⟨result, p⟩ := made
  have put : τ.Extends (τ.put i p) := extends_put more.1
  cases result with
  | ok r =>
      refine (put.addWrapper ?_).reply _
      rintro _ ⟨⟩
      exact more.2 r rfl
  | error e => exact put.reply _

theorem extends_perform (τ : ByteListWrappers) (i : Nat) (t : Task)
    : τ.Extends (τ.perform i t) := by
  have refl : τ.Extends τ := ⟨Nat.le_refl _, fun _ _ => .inl⟩
  have pointed (raw : Option (Ref Native.Buffer)) (r : Ref Native.Buffer)
      (same : τ.pointer raw = some r)
      : r.index < τ.made :=
    of_decide_eq_true (Option.filter_eq_some_iff.1 same).2
  cases t with
  | nativeBuffer => exact (extends_put (τ.byteLists i).made_le_make.1).reply _
  | new => exact extends_keep (τ.byteLists i).made_le_new
  | ofBytes | ofBytesLen | copy | copyView => exact extends_keep ((τ.byteLists i).made_le_build _)
  | adopt raw own => exact (refl.addWrapper (pointed raw)).reply _
  | lookAt | view => exact (refl.addView _).reply _
  | setOwn | ask | look | flush | flushTask | setMainLoop => exact refl.reply _
  | release place | dispose place | drop place => exact (τ.extends_setWrapper place).reply _
  | edit place e =>
      have still := (τ.byteLists i).made_edit (τ.wrapper place) (e.map τ.wrapper)
      exact (extends_put (Nat.le_of_eq still.symm)).reply _
  | reset place | freeContents place =>
      refine (extends_put ?_).reply _
      cases τ.wrapper place <;> exact Nat.le_refl _
  | failNextAlloc | failNextWrite => exact (extends_put (Nat.le_refl _)).reply _
  | failNextWriteTo raw =>
      refine (extends_put ?_).reply _
      cases τ.pointer raw <;> exact Nat.le_refl _

end ByteListWrappers

end Custody
