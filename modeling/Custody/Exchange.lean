import Custody.Registry

/-!
The state together with the waiting delegates, and the reports that delegates leave.
-/

namespace Custody

/-- All that a run works on: the state, the delegates that wait, and what each delegate that
acted has learnt, in the order in which they ended their acts.
-/
structure Exchange where
  state : State := {}
  delegates : Registry := {}
  reports : List (List Answer) := []
deriving DecidableEq

instance : Inhabited Exchange := ⟨{}⟩

namespace Exchange

/-- The exchange before anything happened. -/
def start (settings : Settings) : Exchange :=
  { state := .start settings }

/-- Reports an event. -/
def note (p : Exchange) (e : Event) : Exchange :=
  { p with state := p.state.note e }

/-- Lets an operation work on the state. -/
def run {α : Type} (p : Exchange) (act : State → α × State) : α × Exchange :=
  ((act p.state).1, { p with state := (act p.state).2 })

/-- The steps that the waiting delegates can still take. -/
def weight (p : Exchange) : Nat :=
  p.delegates.weight

end Exchange

end Custody
