import Custody.Proofs.ByteLists.Agreement
import Custody.Proofs.Hosting.Bus

/-! The uses of wrappers that need a native object. Each is told whether a wrapper has none that it needs
one of, and then fails: it answers what stands for that, reports the wrapper, and does nothing else.
-/

namespace Custody

open State

/-- A use of wrappers that needs their native objects. The contents of a buffer, the signature of a body
and the like are asked for in the same way as they are changed.
-/
inductive Use
  | edit (b : Buffer) (e : Edit Buffer)
  | reset (b : Buffer)
  | freeContents (b : Buffer)
  | toBytes (b : Buffer)
  | length (b : Buffer)
  | isEmpty (b : Buffer)
  | slice (b : Buffer)
  | lock {k : ElementKind} (c : Cursor k)
  | unlock {k : ElementKind} (c : Cursor k)
  | container {k : ElementKind} (c : Cursor k)
  | newRef (m : Message)
  | signature (m : Message)
  | fault (m : Message)
  | cursor (m : Message)
  | append (m : Message) (value : Argument)
  | appendAll (m : Message) (values : List Argument)
  | write (c : BodyCursor) (value : Argument)
  | openContainer (c : BodyCursor) (t : ArgumentType) (contained : Option String)
  | closeContainer (c inner : BodyCursor)
  | appendFixed (c : BodyCursor) (t : ArgumentType) (elements : Slice)
  | appendBuffer (c : BodyCursor) (b : Buffer)
  | restSignature (c : BodyCursor)
  | currentType (c : BodyCursor)
  | read (c : BodyCursor)
  | readArray (c : BodyCursor)
  | readBytes (c : BodyCursor)
  | method (p : PendingCall)
  | cancel (p : PendingCall)

namespace Use

/-- What a use answers. -/
def Answer : Use → Type
  | edit .. | isEmpty _ | lock _ | unlock _ => Bool
  | reset _ | freeContents _ => Unit
  | toBytes _ => Option (List UInt8)
  | length _ => Nat
  | slice _ => Slice
  | container _ => Option (Ref Native.Cursor)
  | newRef _ => Except BusError Message
  | signature _ => Except BusError String
  | fault _ => Except BusError (Option Native.Fault)
  | cursor _ | openContainer .. | readArray _ => Except BusError BodyCursor
  | append .. | appendAll .. | write .. | closeContainer .. | appendFixed .. | appendBuffer .. =>
      Except BusError Unit
  | restSignature _ => Option String
  | currentType _ => Option ArgumentType
  | read _ => Except BusError Argument
  | readBytes _ => Except BusError Buffer
  | method _ => Except BusError (Option String)
  | cancel _ => Except BusError PendingCall

def run (s : State) : (u : Use) → u.Answer × State
  | edit b e => e.run b s
  | reset b => ((), b.reset s)
  | freeContents b => ((), b.freeContents s)
  | toBytes b => b.toBytes? s
  | length b => b.length s
  | isEmpty b => b.isEmpty s
  | slice b => b.slice s
  | lock c => c.lock s
  | unlock c => c.unlock s
  | container c => c.container s
  | newRef m => Message.newRef m s
  | signature m => Message.signature m s
  | fault m => Message.fault m s
  | cursor m => Message.cursor m s
  | append m value => Message.append m value s
  | appendAll m values => Message.appendAll m values s
  | write c value => c.append value s
  | openContainer c t contained => c.openContainer t contained s
  | closeContainer c inner => c.closeContainer inner s
  | appendFixed c t elements => c.appendFixed t elements s
  | appendBuffer c b => c.appendBuffer b s
  | restSignature c => c.signature s
  | currentType c => c.currentType s
  | read c => c.read s
  | readArray c => c.readArray s
  | readBytes c => c.readBytes s
  | method p => p.method s
  | cancel p => p.cancel s

-----------------------------------------------------------------------------------------
-- Wrappers without a native object
-----------------------------------------------------------------------------------------

/-- A wrapper has no native object that the use needs. Nothing is needed to append no values. -/
def OnNull : Use → Prop
  | edit b e => b.raw = none ∨ e.NoSource
  | reset b | freeContents b | toBytes b | length b | isEmpty b | slice b => b.raw = none
  | lock c | unlock c | container c => c.handle.raw = none
  | newRef m | signature m | fault m | cursor m | append m _ => m.raw = none
  | appendAll m values => m.raw = none ∧ values ≠ []
  | closeContainer c inner => c.raw = none ∨ inner.raw = none
  | write c _ | openContainer c _ _ | appendFixed c _ _ | appendBuffer c _ | restSignature c
  | currentType c | read c | readArray c | readBytes c => c.raw = none
  | method p | cancel p => p.raw = none

/-- What stands for the want of a native object: no, nothing, none at all, or an error. -/
def failing : (u : Use) → u.Answer
  | edit .. | lock _ | unlock _ => false
  | isEmpty _ => true
  | reset _ | freeContents _ => ()
  | toBytes _ | container _ | restSignature _ | currentType _ => none
  | length _ => (0 : Nat)
  | slice _ => Slice.null 0
  | newRef _ | signature _ | fault _ | cursor _ | append .. | appendAll .. | write ..
  | openContainer .. | closeContainer .. | appendFixed .. | appendBuffer .. | read _ | readArray _
  | readBytes _ | method _ | cancel _ => .error .nullHandle

/-- The half of the library that reports the wrapper. -/
def realm : Use → Realm
  | edit .. | reset _ | freeContents _ | toBytes _ | length _ | isEmpty _ | slice _ | lock _
  | unlock _ | container _ => .data
  | _ => .bus

/-- An edit of or with a wrapper without a buffer. -/
theorem edit_of_null {b : Buffer} {e : Edit Buffer} (s : State) (null : b.raw = none ∨ e.NoSource)
    : e.run b s = (false, s.raiseNullHandle .data) := by
  obtain ⟨raw, own⟩ := b
  cases raw with
  | none => cases e <;> rfl
  | some r =>
      have noSource : e.NoSource := null.resolve_left nofun
      cases e with
      | appendBuffer source =>
          obtain ⟨raw, own⟩ := source
          cases noSource
          rfl
      | _ => exact noSource.elim

/-- A use that wants a native object fails and reports the wrapper; one case for each use. -/
theorem run_of_onNull (u : Use) (s : State) (null : u.OnNull)
    : u.run s = (u.failing, s.raiseNullHandle u.realm) := by
  cases u with
  | edit b e => exact edit_of_null s null
  | reset b | freeContents b | toBytes b | length b | isEmpty b | slice b =>
      obtain ⟨raw, own⟩ := b
      cases null
      rfl
  | lock c | unlock c | container c =>
      obtain ⟨⟨raw, own⟩, exhausted⟩ := c
      cases null
      rfl
  | newRef m | signature m | fault m | cursor m | append m =>
      obtain ⟨raw, own⟩ := m
      cases null
      rfl
  | appendAll m values =>
      obtain ⟨raw, own⟩ := m
      obtain ⟨⟨⟩, some⟩ := null
      cases values with
      | nil => exact absurd rfl some
      | cons value rest => rfl
  | closeContainer c inner =>
      obtain ⟨raw⟩ := c
      obtain ⟨inside⟩ := inner
      cases raw with
      | none => rfl
      | some r =>
          cases null.resolve_left nofun
          rfl
  | write c | openContainer c | appendFixed c | appendBuffer c | restSignature c | currentType c
  | read c | readArray c | readBytes c =>
      obtain ⟨raw⟩ := c
      cases null
      rfl
  | method p | cancel p =>
      obtain ⟨raw⟩ := p
      cases null
      rfl

-----------------------------------------------------------------------------------------
-- What uses free
-----------------------------------------------------------------------------------------

/-- The use reads bytes into a buffer, which refuses them. -/
def Refused (s : State) : Use → Prop
  | readBytes c => (c.readBytes s).1 = .error (.buffer .append)
  | _ => False

/-- One case for each use. -/
theorem frees_run (u : Use) (s : State)
    : Frees [] (u.Refused s) s (u.run s).2 := by
  cases u with
  | edit b e => exact .of_not (e.tame_run b s).proceeds id
  | reset b | freeContents b => exact .of_not (b.tame_reset s).proceeds id
  | toBytes b => exact .of_not (Question.toBytes.tame_ask b s).proceeds id
  | length b | isEmpty b => exact .of_not (Question.length.tame_ask b s).proceeds id
  | slice b => exact .of_not (Question.slice.tame_ask b s).proceeds id
  | lock c => exact .of_not (c.tame_lock s).proceeds id
  | unlock c => exact .of_not (c.tame_unlock s).proceeds id
  | container c => exact .of_not (c.tame_container s).proceeds id
  | newRef m => exact .of_not (m.proceeds_newRef s) id
  | signature m => exact .of_not (m.tame_signature s).proceeds id
  | fault m => exact .of_not (m.tame_fault s).proceeds id
  | cursor m => exact .of_not (m.tame_cursor s).proceeds id
  | append m value => exact .of_not (m.tame_append value s).proceeds id
  | appendAll m values => exact .of_not (m.tame_appendAll values s).proceeds id
  | write c value => exact .of_not (c.tame_append value s).proceeds id
  | openContainer c t contained => exact .of_not (c.tame_openContainer t contained s).proceeds id
  | closeContainer c inner => exact .of_not (c.tame_closeContainer inner s).proceeds id
  | appendFixed c t elements => exact .of_not (c.tame_appendFixed t elements s).proceeds id
  | appendBuffer c b => exact .of_not (c.tame_appendBuffer b s).proceeds id
  | restSignature c | currentType c => exact .of_not (c.tame_signature s).proceeds id
  | read c => exact .of_not (c.tame_read s).proceeds id
  | readArray c => exact .of_not (c.tame_readArray s).proceeds id
  | readBytes c => exact c.frees_readBytes s
  | method p => exact .of_not (p.tame_method s).proceeds id
  | cancel p => exact .of_not (p.tame_cancel s).proceeds id

end Use

end Custody
