import Custody.Connection

/-!
Delivery of replies. A reply names a delegate by its token; the delegate leaves the table before
it runs, so no token is delivered twice, and a delegate may dispatch any token again from inside.
Every dispatch ends: a run uses up steps of its own text, and can only go on to the texts of
delegates that still wait.
-/

namespace Custody

/-- Where a running delegate stands: its reply, its pending call, and what it has learnt. -/
structure Seat where
  reply : Message
  call : PendingCall
  answers : List Answer := []
deriving DecidableEq, Inhabited

/-- How a run of a delegate ended. -/
inductive Ended
  | ok
  | failed (error : String)
  | panicked
deriving DecidableEq, Inhabited

/-- How an ending without a failed act is seen: an error names its contexts from outside in. -/
def Ending.ended : Ending → Ended
  | .ok => .ok
  | .failed causes => .failed (": ".intercalate causes.reverse)
  | .panic => .panicked

namespace Seat

/-- The seat of a delegate whose reply came: the reply is not owned. -/
def start (m : Ref Native.Message) (c : Ref Native.PendingCall) : Seat :=
  { reply := { raw := some m, own := false }, call := ⟨some c⟩ }

/-- Notes down an answer. -/
def learn (seat : Seat) (a : Answer) : Seat :=
  { seat with answers := seat.answers ++ [a] }

/-- Asks something of the reply or the pending call; the seat stays as it is. -/
def ask {α : Type} (seat : Seat) (answer : α → Answer) (a : Attempt BusError α)
    : Except BusError Answer × Seat × State :=
  (a.1.map answer, seat, a.2)

/-- Performs an act on the reply or the pending call. -/
def perform (seat : Seat) (s : State) : Act → Except BusError Answer × Seat × State
  | .owns => (.ok (.flag seat.reply.own), seat, s)
  | .signature => seat.ask (fun t => .text (some t)) (Message.signature seat.reply s)
  | .fault => seat.ask .fault (Message.fault seat.reply s)
  | .currentType =>
      seat.ask .text <| (Message.cursor seat.reply s).andThen fun c s =>
        (.ok ((c.currentType s).1.map ArgumentType.letter), (c.currentType s).2)
  | .cursorSignature =>
      seat.ask .text <| (Message.cursor seat.reply s).andThen fun c s =>
        (.ok (c.signature s).1, (c.signature s).2)
  | .read n =>
      seat.ask .arguments <| (Message.cursor seat.reply s).andThen fun c s => c.readMany n s
  | .readBytes =>
      seat.ask .bytes <| (Message.cursor seat.reply s).andThen fun c s =>
        (c.readArray s).andThen fun inner s =>
          (inner.readBytes s).andThen fun b s =>
            let (bytes, s) := Buffer.toBytes? b s
            (.ok bytes, b.drop s)
  | .append a => seat.ask (fun _ => .done) (Message.append seat.reply a s)
  | .method => seat.ask .text (seat.call.method s)
  | .cancel =>
      match seat.call.cancel s with
      | (.ok call, s) => (.ok .done, { seat with call }, s)
      | (.error e, s) => (.error e, seat, s)
  | .newRef =>
      seat.ask .flag <| (Message.newRef seat.reply s).andThen fun m s => (.ok m.own, m.drop s)
  | .own => (.ok .done, { seat with reply := { seat.reply with own := true } }, s)
  | .release =>
      let (raw, reply) := seat.reply.release
      (.ok (.flag raw.isNone), { seat with reply }, s)
  | .dispose =>
      let (reply, s) := seat.reply.dispose s
      (.ok .done, { seat with reply }, s)

end Seat

/-- An answer and an exchange whose table weighs at most `bound`. -/
abbrev Bounded (bound : Nat) (α : Type) :=
  { r : α × Exchange // r.2.weight ≤ bound }

/-- A bound may be raised. -/
def Bounded.raise {low high : Nat} {α : Type} (r : Bounded low α) (le : low ≤ high)
    : Bounded high α :=
  ⟨r.1, Nat.le_trans r.2 le⟩

namespace Exchange

/-- Ends the acts of a delegate: it reports what it learnt, and its reply is dropped. -/
def leave (p : Exchange) (seat : Seat) : Exchange :=
  { p with state := seat.reply.drop p.state, reports := p.reports ++ [seat.answers] }

/-- What a dispatch answers and reports of the run it caused. -/
def settle (p : Exchange) : Ended → Dispatch × Exchange
  | .ok => (.delivered, p)
  | .failed error => (.delegateFailed, p.note (.delegateFailed error))
  | .panicked => (.delegatePanicked, p.note .delegatePanicked)

/-- The report of a run leaves the table alone. -/
@[simp]
theorem weight_settle (p : Exchange) (e : Ended)
    : (p.settle e).2.weight = p.weight := by
  cases e <;> rfl

/-- Delivers a reply to the delegate of a token, given the means to run one that weighs no more
than the table it came from.
-/
def dispatchBy (p : Exchange) (t : Token) (m : Option (Ref Native.Message))
    (c : Option (Ref Native.PendingCall))
    (run : (d : Delegate) → Seat → (q : Exchange) → q.weight + d.weight ≤ p.weight →
      Bounded p.weight Ended)
    : Bounded p.weight Dispatch :=
  match taken : p.delegates.take? t with
  | none => ⟨(.unknownDelegate, p.note .unknownDelegate), Nat.le_refl _⟩
  | some (d, delegates) =>
      let q : Exchange := { p with delegates }
      have lighter : q.weight + d.weight ≤ p.weight := Registry.weight_take?_le taken
      match m, c with
      | some m, some c =>
          let r := run d (Seat.start m c) q lighter
          ⟨r.1.2.settle r.1.1, by rw [weight_settle]; exact r.2⟩
      | _, _ => ⟨(.badHandles, q.note .nullReply), Nat.le_trans (Nat.le_add_right _ _) lighter⟩

/-- Runs a delegate to its end. -/
def runBounded (d : Delegate) (seat : Seat) (p : Exchange) : Bounded (p.weight + d.weight) Ended :=
  match d with
  | .finish ending => ⟨(ending.ended, p.leave seat), Nat.le_add_right _ _⟩
  | .act act next =>
      match seat.perform p.state act with
      | (.ok a, seat, state) =>
          (runBounded next (seat.learn a) { p with state }).raise (Nat.le_add_right _ 1)
      | (.error e, seat, state) =>
          ⟨(.failed e.message, { p with state }.leave (seat.learn (.failed e))),
            Nat.le_add_right _ _⟩
  | .table act next =>
      have lighter := p.delegates.weight_perform_le act
      (runBounded next (seat.learn (p.delegates.perform act).1)
        { p with delegates := (p.delegates.perform act).2 }).raise
        (by simp only [weight, Delegate.weight]; omega)
  | .register child next =>
      have grown := p.delegates.weight_register_le child
      (runBounded next (seat.learn (.token (p.delegates.register child).1))
        { p with delegates := (p.delegates.register child).2 }).raise
        (by simp only [weight, Delegate.weight]; omega)
  | .dispatch t next =>
      match p.dispatchBy t seat.reply.raw seat.call.raw fun d seat q lighter =>
        (runBounded d seat q).raise lighter with
      | ⟨(outcome, q), lighter⟩ =>
          (runBounded next (seat.learn (.outcome outcome)) q).raise
            (by simp only [Delegate.weight] at *; omega)
  | .callback t next =>
      match p.dispatchBy t seat.reply.raw seat.call.raw fun d seat q lighter =>
        (runBounded d seat q).raise lighter with
      | ⟨(_, q), lighter⟩ =>
          (runBounded next (seat.learn .done) q).raise
            (by simp only [Delegate.weight] at *; omega)
  | .forward connection timeout child next =>
      match Message.newRef seat.reply p.state with
      | (.error e, state) =>
          ⟨(.failed e.message, { p with state }.leave (seat.learn (.failed e))),
            Nat.le_add_right _ _⟩
      | (.ok m, state) =>
          match sent : send { p with state } connection m timeout child with
          | (.ok _, q) =>
              have grown : q.weight ≤ p.weight + child.weight :=
                weight_of_send { p with state } sent
              (runBounded next (seat.learn .done) q).raise
                (by simp only [Delegate.weight]; omega)
          | (.error e, q) =>
              have grown : q.weight ≤ p.weight + child.weight :=
                weight_of_send { p with state } sent
              ⟨(.failed e.message, q.leave (seat.learn (.failed e))),
                by simp only [weight, leave, Delegate.weight] at *; omega⟩
termination_by p.weight + d.weight
decreasing_by all_goals simp only [weight, Delegate.weight] at *; omega

/-- Runs a delegate to its end; answers how it ended. -/
def runDelegate (p : Exchange) (d : Delegate) (seat : Seat) : Ended × Exchange :=
  (runBounded d seat p).1

/-- Delivers a reply to the delegate of a token. -/
def dispatch (p : Exchange) (t : Token) (m : Option (Ref Native.Message))
    (c : Option (Ref Native.PendingCall)) : Dispatch × Exchange :=
  (p.dispatchBy t m c fun d seat q lighter => (runBounded d seat q).raise lighter).1

/-- The call that the native side makes when a reply comes. Nothing comes back from it. -/
def callback (p : Exchange) (t : Token) (m : Option (Ref Native.Message))
    (c : Option (Ref Native.PendingCall)) : Exchange :=
  (p.dispatch t m c).2

/-- Delivers a reply to a message that a connection sent, counted from zero. -/
def deliver (p : Exchange) (c : Ref Native.Connection) (place : Nat)
    (m : Option (Ref Native.Message)) : Option Exchange :=
  (p.state.connection c).sent[place]?.map fun sent => p.callback sent.token m (some sent.call)

end Exchange

end Custody
