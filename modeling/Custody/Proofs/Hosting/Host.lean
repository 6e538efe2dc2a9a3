import Custody.Proofs.Hosting.Moves
import Custody.Proofs.Hosting.Uses

/-! A host of the library: any number of threads that make, use, hand on and end wrappers of every kind,
send messages and answer them, and call what needs no wrapper.
-/

namespace Custody

open State

/-- A call that needs no wrapper: for the queue of frees, for the error channel, or of the native side
about what it will do.
-/
inductive Service
  | schedule (h : Option NativeHandle)
  | registerError (text : List UInt8)
  | newKind (text : List UInt8)
  | kindNumber (kind : Ref LazyKind)
  | raiseKind (kind : Ref LazyKind)
  | raise (number : ErrorNumber)
  | clearError
  | subscribe
  | plan (change : Native.PlannedAnswers → Native.PlannedAnswers)
  | setBody (r : Ref Native.Message) (body : Body)
  | setFault (r : Ref Native.Message) (name text : String)
  | failNextAppend (r : Ref Native.Message)
  | failNextWriteAt (r : Ref Native.BodyCursor)

namespace Service

def run (s : State) : Service → State
  | schedule h => s.schedulePointer h
  | registerError text => (s.registerError text).2
  | newKind text => (s.newKind text).2
  | kindNumber kind => (s.kindNumber kind).2
  | raiseKind kind => (s.raiseKind kind).2
  | raise number => s.raise number
  | clearError => s.clearError
  | subscribe => s.subscribe.2
  | plan change => s.plan change
  | setBody r body => s.setMessage r ((s.message r).setBody body)
  | setFault r name text => s.setMessage r ((s.message r).setFault name text)
  | failNextAppend r => s.setMessage r { s.message r with failNext := true }
  | failNextWriteAt r => s.setBodyCursor r { s.bodyCursor r with failNext := true }

/-- One case for each service. -/
theorem proceeds_run (v : Service) (s : State)
    : Proceeds [] s (v.run s) := by
  cases v with
  | schedule h => exact proceeds_schedulePointer s h
  | registerError text => exact proceeds_registerError s text
  | newKind text => exact proceeds_newKind s text
  | kindNumber kind => exact proceeds_kindNumber s kind
  | raiseKind kind =>
      exact (proceeds_kindNumber s kind).before (.of_same rfl rfl rfl rfl rfl rfl)
  | raise | clearError | subscribe | plan => exact .of_same rfl rfl rfl rfl rfl rfl
  | setBody =>
      exact Tame.proceeds (.setMessage rfl rfl rfl fun _ => ZeroTerminated.fits_kept _)
  | setFault | failNextAppend => exact Tame.proceeds (.setMessage rfl rfl rfl id)
  | failNextWriteAt r => exact .of_same rfl rfl rfl rfl rfl rfl

end Service

/-- What a thread can do in one step. The wrappers that a use takes are given with it: those in the hands
of the host, and any others.
-/
inductive Call
  | data (op : Operation)
  | bus (move : Switchboard.Move)
  | use (u : Use)
  | serve (v : Service)

/-- The switchboard, with its threads and wrappers of messages, and the wrappers of buffers and cursors. -/
structure Host where
  board : Switchboard
  wrappers : List Wrapper := []

namespace Host

/-- Before the first call there are no objects, and no error kind has a number. -/
def start (settings : Settings) (threads : Nat → Thread) : Host where
  board := { threads, world := (State.blank settings).world }

variable (σ : Host) (i : Nat)

/-- The state in which a thread runs. -/
def state : State :=
  σ.board.state i

/-- A thread changed the state. -/
def put (s : State) : Host :=
  { σ with board := σ.board.putState i s }

def call : Call → Host
  | .data op =>
      { board := σ.board.putState i (op.run σ.wrappers (σ.state i)).2
        wrappers := (op.run σ.wrappers (σ.state i)).1 }
  | .bus move => { σ with board := σ.board.move i move }
  | .use u => σ.put i (u.run (σ.state i)).2
  | .serve v => σ.put i (v.run (σ.state i))

/-- One call, by the thread that it stands with. -/
def step (σ : Host) (e : Nat × Call) : Host :=
  σ.call e.1 e.2

def run (σ : Host) (es : List (Nat × Call)) : Host :=
  es.foldl step σ

-----------------------------------------------------------------------------------------
-- What calls free
-----------------------------------------------------------------------------------------

/-- What a call frees in so many words. -/
def disposes : Call → List NativeHandle
  | .data op => op.disposes σ.wrappers
  | .bus move => σ.board.disposes i move
  | .use _ | .serve _ => []

/-- The call makes a buffer, and its contents are refused. -/
def Refused : Call → Prop
  | .data op => op.Refused (σ.state i)
  | .bus move => σ.board.Refused i move
  | .use u => u.Refused (σ.state i)
  | .serve _ => False

/-- The call puts its thread onto the main loop, or takes it away from there. -/
def SetsMainLoop : Call → Prop
  | .data op => op.SetsMainLoop
  | .bus move => move.SetsMainLoop
  | .use _ | .serve _ => False

@[simp]
theorem state_put (s : State)
    : (σ.put i s).state i = s :=
  σ.board.state_putState i s

/-- Every call frees no more than it says, if not on the main loop; one case for each kind of call. -/
theorem frees_call {c : Call} (stays : ¬ SetsMainLoop c)
    : Frees (σ.disposes i c) (σ.Refused i c) (σ.state i) ((σ.call i c).state i) := by
  cases c with
  | data op =>
      have shown : (σ.call i (.data op)).state i = (op.run σ.wrappers (σ.state i)).2 :=
        σ.board.state_putState i _
      rw [shown]
      exact op.frees_run σ.wrappers (σ.state i) stays
  | bus move => exact σ.board.frees_move i move stays
  | use u =>
      rw [call, state_put]
      exact u.frees_run (σ.state i)
  | serve v =>
      rw [call, state_put]
      exact .of_not (v.proceeds_run (σ.state i)) id

/-- On its way to the main loop, and away from it, a thread frees nothing. -/
theorem call_setMainLoop {c : Call} (sets : SetsMainLoop c)
    : (σ.call i c).board.world = σ.board.world ∧ σ.disposes i c = [] ∧ ¬ σ.Refused i c := by
  cases c with
  | data op =>
      cases op with
      | setMainLoop on => exact ⟨rfl, rfl, id⟩
      | _ => exact sets.elim
  | bus move =>
      cases move with
      | setMainLoop on => exact ⟨rfl, rfl, id⟩
      | _ => exact sets.elim
  | use | serve => exact sets.elim

variable {P : World → Prop}

/-- What every operation keeps on its thread, every call keeps. -/
theorem keeps_step (keeps : ∀ {frees s t}, Proceeds frees s t → P s.world → P t.world)
    (e : Nat × Call) (holds : P σ.board.world)
    : P (σ.step e).board.world := by
  by_cases sets : SetsMainLoop e.2
  · show P (σ.call e.1 e.2).board.world
    rw [(σ.call_setMainLoop e.1 sets).1]
    exact holds
  · obtain ⟨_, went⟩ := (σ.frees_call e.1 sets).proceeds
    exact keeps went holds

variable {σ}

/-- By induction on the calls. -/
theorem keeps_run (keeps : ∀ {frees s t}, Proceeds frees s t → P s.world → P t.world)
    (holds : P σ.board.world) (es : List (Nat × Call))
    : P (σ.run es).board.world := by
  induction es generalizing σ with
  | nil => exact holds
  | cons e rest ih => exact ih (σ.keeps_step keeps e holds)

/-- The error kinds of released wrappers stay in order, whatever is called. -/
theorem nullKinds_run (known : σ.board.world.NullKinds) (es : List (Nat × Call))
    : (σ.run es).board.world.NullKinds :=
  keeps_run Proceeds.kinds known es

/-- Whatever is called, no signature of a message comes to hold a NUL. -/
theorem signaturesFit_run (settings : Settings) (threads : Nat → Thread) (es : List (Nat × Call))
    : ((start settings threads).run es).board.world.SignaturesFit :=
  keeps_run Proceeds.signatures (signaturesFit_blank settings) es

end Host

end Custody
