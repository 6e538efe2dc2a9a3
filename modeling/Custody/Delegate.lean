import Custody.Argument
import Custody.Bus.Error

/-!
Delegates: the programs that wait for a reply. A delegate acts on its reply and its pending call,
on the table of waiting delegates, and on other delegates, whose texts are part of its own; then
it ends.
-/

namespace Custody

/-- A borrowed connection. -/
structure Connection where
  raw : Option (Ref Native.Connection) := none
deriving DecidableEq, Inhabited

/-- An act of a delegate on its reply and its pending call. -/
inductive Act
  | owns
  | signature
  /-- Asks what the reply says if it is an error. -/
  | fault
  | currentType
  /-- Asks for the signature at a new position in the reply. -/
  | cursorSignature
  /-- Reads values of basic types from the start. -/
  | read (count : Nat)
  /-- Reads the array at the start as a block of bytes. -/
  | readBytes
  | append (value : Argument)
  | method
  | cancel
  /-- Takes a reference to the reply and drops it. -/
  | newRef
  | own
  | release
  | dispose
deriving DecidableEq

/-- An act of a delegate on the table of waiting delegates. -/
inductive TableAct
  | count
  /-- Asks whether the delegate of a token waits. -/
  | contains (token : Token)
  /-- Takes the delegate of a token out of the table. -/
  | remove (token : Token)
deriving DecidableEq

/-- How a delegate ends once its acts are done. -/
inductive Ending
  | ok
  /-- An error, as the texts from the cause outwards. -/
  | failed (causes : List String)
  | panic
deriving DecidableEq, Inhabited

/-- The text of a delegate. -/
inductive Delegate
  | finish (ending : Ending)
  | act (act : Act) (next : Delegate)
  | table (act : TableAct) (next : Delegate)
  | register (child next : Delegate)
  /-- Dispatches a token with its own reply and pending call. -/
  | dispatch (token : Token) (next : Delegate)
  /-- Calls back with a token and its own reply and pending call, and learns nothing from it. -/
  | callback (token : Token) (next : Delegate)
  /-- Sends a new reference to its reply over a connection; the child waits for the answer. -/
  | forward (connection : Connection) (timeout : Double) (child next : Delegate)
deriving DecidableEq

instance : Inhabited Delegate := ⟨.finish .ok⟩

/-- The number of steps in the text of a delegate, with those of the delegates inside it. -/
def Delegate.weight : Delegate → Nat
  | finish _ => 1
  | act _ next => next.weight + 1
  | table _ next => next.weight + 1
  | register child next => child.weight + next.weight + 1
  | dispatch _ next => next.weight + 1
  | callback _ next => next.weight + 1
  | forward _ _ child next => child.weight + next.weight + 1

/-- What a dispatch did. -/
inductive Dispatch
  | delivered
  | unknownDelegate
  | badHandles
  | delegateFailed
  | delegatePanicked
deriving DecidableEq, Inhabited

/-- The name of an outcome. -/
def Dispatch.name : Dispatch → String
  | delivered => "Delivered"
  | unknownDelegate => "UnknownDelegate"
  | badHandles => "BadHandles"
  | delegateFailed => "DelegateFailed"
  | delegatePanicked => "DelegatePanicked"

/-- What a delegate learnt from an act. -/
inductive Answer
  | done
  | flag (value : Bool)
  | count (value : Nat)
  | token (value : Token)
  | text (value : Option String)
  | fault (value : Option Native.Fault)
  | arguments (values : List Argument)
  | bytes (value : Option (List UInt8))
  | outcome (value : Dispatch)
  | failed (error : BusError)
deriving DecidableEq, Inhabited

end Custody
