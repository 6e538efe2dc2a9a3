import Custody.Dispatch

/-! Many threads over one exchange. Every thread works on its innermost call, one step at a time: a
delegate follows its text, a registration takes its token before its delegate is in the table, and
a send lets its delegate wait before it calls the native side. Between two steps the other threads,
and other code on the same thread, may do anything.
-/

namespace Custody

namespace Registry

/-- Takes the next token; nothing waits under it yet. -/
def reserve (r : Registry) : Token × Registry :=
  (r.next, { r with next := r.next + 1 })

/-- Puts a delegate into the table under a token. -/
def enlist (r : Registry) (t : Token) (d : Delegate) : Registry :=
  { r with entries := (r.erase t).entries ++ [(t, d)] }

/-- A registration takes its token first, and then puts its delegate into the table. -/
theorem register_eq (r : Registry) (d : Delegate)
    : r.register d = (r.reserve.1, r.reserve.2.enlist r.reserve.1 d) :=
  rfl

end Registry

-----------------------------------------------------------------------------------------
-- Calls that are not finished
-----------------------------------------------------------------------------------------

/-- Who waits for the answer of a call. -/
structure Asker where
  /-- Whether the delegate below asks in its text. If not, other code of the thread does. -/
  inText : Bool
  /-- Whether the native side calls, which hands no answer on. -/
  native : Bool := false
deriving DecidableEq

/-- A message that is to be sent. -/
structure Posting where
  connection : Ref Native.Connection
  message : Ref Native.Message
  timeout : Double
deriving DecidableEq

/-- A call that is not finished. -/
inductive Frame
  /-- A delegate that was found under a token: the rest of its text, and where it stands. -/
  | running (asker : Asker) (token : Token) (rest : Delegate) (seat : Seat)
  /-- A delegate whose acts are over. -/
  | ended (asker : Asker) (token : Token) (how : Ended) (seat : Seat)
  /-- A registration that has its token, on its own or for a message that is to be sent. -/
  | registering (asker : Asker) (token : Token) (delegate : Delegate) (post : Option Posting)
  /-- A send whose delegate waits, before the native side is called. -/
  | posting (asker : Asker) (token : Token) (delegate : Delegate) (post : Posting)
  /-- A send that the native side refused, before its token is taken out again. -/
  | refused (asker : Asker) (token : Token)
deriving DecidableEq

/-- A delegate learns the answer of the call above it; an error ends its acts. -/
def Frame.hear (answer : Except BusError Answer) : Frame → Frame
  | running k t d seat =>
      match answer with
      | .ok a => running k t d (seat.learn a)
      | .error e => ended k t (.failed e.message) (seat.learn (.failed e))
  | f => f

-----------------------------------------------------------------------------------------
-- What is on record
-----------------------------------------------------------------------------------------

/-- A message that the native side accepted for sending. -/
structure Sending where
  connection : Ref Native.Connection
  message : Ref Native.Message
  /-- The method that the message was made to call, if it was made so. -/
  method : Option String
  token : Token
  delegate : Delegate
  /-- The pending call that the send answered. -/
  call : Ref Native.PendingCall
deriving DecidableEq

/-- What a step did to a token. -/
inductive TokenDeed
  /-- A registration took it. -/
  | reserved (token : Token)
  /-- A registration put its delegate into the table. -/
  | enlisted (token : Token) (delegate : Delegate)
  /-- It was unregistered, and was there. -/
  | removed (token : Token)
  /-- A dispatch found it, and had a null pointer to deliver. -/
  | rejected (token : Token)
  /-- A dispatch found it, and its delegate began to run. -/
  | invoked (token : Token) (delegate : Delegate) (seat : Seat)
deriving DecidableEq

/-- What a step did that later steps are held to. -/
inductive Deed
  | token (deed : TokenDeed)
  | sent (sending : Sending)
  /-- A message was made to call a method. -/
  | made (message : Ref Native.Message) (method : String)
  /-- A reference to a message passed from a wrapper, or its maker, to whoever has the pointer. -/
  | handedOut (message : Ref Native.Message)
  /-- A reference to a message passed from whoever has the pointer to a wrapper. -/
  | takenOver (message : Ref Native.Message)
  /-- What a call of other code answered. -/
  | answered (thread : Nat) (answer : Except BusError Answer)

namespace Message

/-- The reference that a wrapper answers for. -/
def owes (m : Message) : List (Ref Native.Message) :=
  if m.own then m.raw.toList else []

/-- The reference that a wrapper would answer for if it owned its message, and does not. -/
def borrows (m : Message) : List (Ref Native.Message) :=
  if m.own then [] else m.raw.toList

end Message

namespace Act

/-- The reference that passes from whoever has the pointer to the reply of a delegate. -/
def takesOver (reply : Message) : Act → List (Ref Native.Message)
  | own => reply.borrows
  | _ => []

/-- The reference that passes from the reply of a delegate to whoever has the pointer. -/
def handsOut (reply : Message) : Act → List (Ref Native.Message)
  | release => reply.owes
  | _ => []

/-- How an act of a delegate is recorded. -/
def deeds (reply : Message) (a : Act) : List Deed :=
  (a.takesOver reply).map .takenOver ++ (a.handsOut reply).map .handedOut

end Act

/-- How an act on the table is recorded. -/
def TableAct.deeds (r : Registry) : TableAct → List Deed
  | remove t => if r.contains t then [.token (.removed t)] else []
  | _ => []

-----------------------------------------------------------------------------------------
-- The switchboard
-----------------------------------------------------------------------------------------

/-- The records of all threads, the exchange they share, the calls that they have not finished, each
thread's innermost first, the wrappers of messages in the hands of other code, and the record.
-/
structure Switchboard where
  threads : Nat → Thread
  world : World
  delegates : Registry := {}
  reports : List (List Answer) := []
  calls : List (Nat × Frame) := []
  wrappers : List Message := []
  history : List Deed := []

namespace Switchboard

/-- Before the first call. -/
def start (settings : Settings) (threads : Nat → Thread) : Switchboard :=
  { threads, world := (State.start settings).world }

variable (σ : Switchboard) (i : Nat)

/-- The state in which a thread runs. -/
def state : State :=
  { thread := σ.threads i, world := σ.world }

/-- The exchange on which a thread works. -/
def exchange : Exchange :=
  { state := σ.state i, delegates := σ.delegates, reports := σ.reports }

/-- A thread changed the state. -/
def putState (s : State) : Switchboard :=
  { σ with
    threads := fun j => if j = i then s.thread else σ.threads j
    world := s.world }

/-- A thread changed the exchange. -/
def put (p : Exchange) : Switchboard :=
  { σ.putState i p.state with delegates := p.delegates, reports := p.reports }

def record (deeds : List Deed) : Switchboard :=
  { σ with history := σ.history ++ deeds }

/-- The innermost call of a thread. -/
def top : Option Frame :=
  (σ.calls.find? (·.1 == i)).map (·.2)

/-- The innermost call of a thread is over. -/
def pop : Switchboard :=
  { σ with calls := σ.calls.eraseP (·.1 == i) }

/-- A thread begins a call. -/
def push (f : Frame) : Switchboard :=
  { σ with calls := (i, f) :: σ.calls }

/-- The innermost call of a thread goes on as another. -/
def replace (f : Frame) : Switchboard :=
  (σ.pop i).push i f

/-- A call that is over answers: to the delegate below it, or to other code. -/
def answer (k : Asker) (a : Except BusError Answer) : Switchboard :=
  let a := if k.native then .ok .done else a
  if k.inText then
    match σ.top i with
    | some f => σ.replace i (f.hear a)
    | none => σ
  else σ.record [.answered i a]

/-- A registration begins: it takes a token. -/
def register (k : Asker) (d : Delegate) (post : Option Posting) : Switchboard :=
  let (t, delegates) := σ.delegates.reserve
  ({ σ with delegates }.record [.token (.reserved t)]).push i (.registering k t d post)

/-- A dispatch looks for its token and takes it out of the table. -/
def dispatch (k : Asker) (t : Token) (m : Option (Ref Native.Message))
    (c : Option (Ref Native.PendingCall)) : Switchboard :=
  match σ.delegates.take? t with
  | none =>
      (σ.putState i ((σ.state i).note .unknownDelegate)).answer i k
        (.ok (.outcome .unknownDelegate))
  | some (d, delegates) =>
      match m, c with
      | some m, some c =>
          ({ σ with delegates }.record [.token (.invoked t d (Seat.start m c))]).push i
            (.running k t d (Seat.start m c))
      | _, _ =>
          ({ σ with delegates }.record [.token (.rejected t)]
            |>.putState i ((σ.state i).note .nullReply)).answer i k
            (.ok (.outcome .badHandles))

/-- A send begins: a message that can be sent hands its reference over, and the delegate is
registered.
-/
def send (k : Asker) (c : Connection) (m : Message) (timeout : Double) (d : Delegate)
    : Switchboard :=
  match (σ.state i).live c.raw with
  | (.error e, s) => (σ.putState i (m.drop s)).answer i k (.error e)
  | (.ok line, s) =>
      match s.live m.raw with
      | (.error e, s) => (σ.putState i (m.drop s)).answer i k (.error e)
      | (.ok r, s) =>
          let s := if m.own then s else s.addRef r
          ((σ.putState i s).record [.handedOut r]).register i k d (some ⟨line, r, timeout⟩)

/-- Acts on the table. -/
def tableAct (act : TableAct) : Switchboard :=
  { σ with delegates := (σ.delegates.perform act).2 }.record (act.deeds σ.delegates)

/-- The delegate that runs on a thread takes the next step of its text. -/
def follow (k : Asker) (t : Token) (seat : Seat) : Delegate → Switchboard
  | .finish ending => σ.replace i (.ended k t ending.ended seat)
  | .act act next =>
      match seat.perform (σ.state i) act with
      | (.ok a, after, s) =>
          ((σ.putState i s).record (act.deeds seat.reply)).replace i
            (.running k t next (after.learn a))
      | (.error e, after, s) =>
          ((σ.putState i s).record (act.deeds seat.reply)).replace i
            (.ended k t (.failed e.message) (after.learn (.failed e)))
  | .table act next =>
      (σ.tableAct act).replace i
        (.running k t next (seat.learn (σ.delegates.perform act).1))
  | .register child next =>
      (σ.replace i (.running k t next seat)).register i { inText := true } child none
  | .dispatch u next =>
      (σ.replace i (.running k t next seat)).dispatch i { inText := true } u seat.reply.raw
        seat.call.raw
  | .callback u next =>
      (σ.replace i (.running k t next seat)).dispatch i { inText := true, native := true } u
        seat.reply.raw seat.call.raw
  | .forward c timeout child next =>
      match Message.newRef seat.reply (σ.state i) with
      | (.error e, s) =>
          (σ.putState i s).replace i (.ended k t (.failed e.message) (seat.learn (.failed e)))
      | (.ok m, s) =>
          ((σ.putState i s).replace i (.running k t next seat)).send i { inText := true } c m
            timeout child

/-- The method that a message was made to call. -/
def methodOf (r : Ref Native.Message) : Option String :=
  σ.history.findSome? fun
    | .made q method => if q = r then some method else none
    | _ => none

/-- What is on record of a message that goes out. -/
def sending (t : Token) (d : Delegate) (post : Posting) (call : Ref Native.PendingCall)
    : Sending :=
  { connection := post.connection, message := post.message, method := σ.methodOf post.message
    token := t, delegate := d, call }

/-- The innermost call of a thread takes its next step. -/
def advance : Switchboard :=
  match σ.top i with
  | none => σ
  | some (.running k t d seat) => σ.follow i k t seat d
  | some (.ended k _ how seat) =>
      let (outcome, p) := ((σ.exchange i).leave seat).settle how
      ((σ.pop i).put i p).answer i k (.ok (.outcome outcome))
  | some (.registering k t d post) =>
      let σ := { σ with delegates := σ.delegates.enlist t d }.record [.token (.enlisted t d)]
      match post with
      | none => (σ.pop i).answer i k (.ok (.token t))
      | some post => σ.replace i (.posting k t d post)
  | some (.posting k t d post) =>
      match (σ.state i).sendNative post.connection post.message t post.timeout with
      | (some call, s) =>
          (((σ.pop i).putState i (s.note .sent)).record [.sent (σ.sending t d post call)]).answer i k
            (.ok .done)
      | (none, s) => (σ.putState i s).replace i (.refused k t)
  | some (.refused k t) =>
      (((σ.pop i).tableAct (.remove t)).putState i ((σ.state i).note .sendFailed)).answer i k
        (.error .send)

-----------------------------------------------------------------------------------------
-- Moves
-----------------------------------------------------------------------------------------

/-- What happens on a thread in one step. -/
inductive Move
  /-- The innermost call goes on. -/
  | advance
  /-- The native side makes a message, and holds the one reference to it. -/
  | nativeMessage (body : Body)
  | nativeCall (method : String)
  | nativeConnection
  | failNextMessage
  | failNextSend (c : Ref Native.Connection)
  | setMainLoop (on : Bool)
  | flush
  | flushTask
  | methodCall (destination path interface method : String)
  /-- Makes a wrapper of a message that the pointer leads to. -/
  | adopt (raw : Option (Ref Native.Message)) (own : Bool)
  /-- Makes a wrapper of a new reference to the message of another. -/
  | newRef (place : Nat)
  /-- Acts as a delegate can on the wrapper at a place and on a pending call at hand. -/
  | act (place : Nat) (call : PendingCall) (a : Act)
  /-- Clears the flag of a wrapper. -/
  | disown (place : Nat)
  | drop (place : Nat)
  | table (a : TableAct)
  | register (d : Delegate)
  | dispatch (t : Token) (m : Option (Ref Native.Message)) (c : Option (Ref Native.PendingCall))
  | callback (t : Token) (m : Option (Ref Native.Message)) (c : Option (Ref Native.PendingCall))
  /-- The native side delivers a reply to a message that a connection sent. -/
  | deliver (c : Ref Native.Connection) (place : Nat) (m : Option (Ref Native.Message))
  /-- Sends the message of the wrapper at a place, which ends. -/
  | send (c : Connection) (place : Nat) (timeout : Double) (d : Delegate)

/-- A wrapper of the message that was made, if it was. -/
def keepMade (made : Attempt BusError Message) (deeds : Message → List Deed) : Switchboard :=
  match made with
  | (.ok m, s) => { σ.putState i s with wrappers := σ.wrappers ++ [m] }.record (deeds m)
  | (.error _, s) => σ.putState i s

/-- Acts on a wrapper and a pending call. -/
def useWrapper (place : Nat) (w : Message) (call : PendingCall) (a : Act) : Switchboard :=
  let (answer, seat, s) := Seat.perform { reply := w, call } (σ.state i) a
  { (σ.putState i s).record (a.deeds w) with wrappers := σ.wrappers.set place seat.reply }.record
    [.answered i answer]

def move : Move → Switchboard
  | .advance => σ.advance i
  | .nativeMessage body =>
      let (r, s) := (σ.state i).newMessage ((Native.Message.ofMethod "").setBody body)
      (σ.putState i s).record [.handedOut r]
  | .nativeCall method => σ.putState i ((σ.state i).newCall { method }).2
  | .nativeConnection => σ.putState i ((σ.state i).newConnection {}).2
  | .failNextMessage => σ.putState i ((σ.state i).plan ({ · with noMessage := true }))
  | .failNextSend c =>
      σ.putState i
        ((σ.state i).setConnection c { (σ.state i).connection c with failNext := true })
  | .setMainLoop on =>
      σ.putState i { thread := { σ.threads i with onMainLoop := on }, world := σ.world }
  | .flush => σ.putState i (σ.state i).flush.2
  | .flushTask => σ.putState i (σ.state i).flushTask.2
  | .methodCall destination path interface method =>
      σ.keepMade i (Message.methodCall destination path interface method (σ.state i)) fun m =>
        m.raw.toList.map (.made · method)
  | .adopt raw own =>
      let w : Message := { raw, own }
      { σ with wrappers := σ.wrappers ++ [w] }.record (w.owes.map .takenOver)
  | .newRef place =>
      match σ.wrappers[place]? with
      | some w => σ.keepMade i (Message.newRef w (σ.state i)) fun _ => []
      | none => σ
  | .act place call a =>
      match σ.wrappers[place]? with
      | some w => σ.useWrapper i place w call a
      | none => σ
  | .disown place =>
      match σ.wrappers[place]? with
      | some w =>
          { σ with wrappers := σ.wrappers.set place { w with own := false } }.record
            (w.owes.map .handedOut)
      | none => σ
  | .drop place =>
      match σ.wrappers[place]? with
      | some w =>
          { σ.putState i (w.drop (σ.state i)) with wrappers := σ.wrappers.eraseIdx place }
      | none => σ
  | .table a => (σ.tableAct a).record [.answered i (.ok (σ.delegates.perform a).1)]
  | .register d => σ.register i { inText := false } d none
  | .dispatch t m c => σ.dispatch i { inText := false } t m c
  | .callback t m c => σ.dispatch i { inText := false, native := true } t m c
  | .deliver c place m =>
      match ((σ.state i).connection c).sent[place]? with
      | some sent => σ.dispatch i { inText := false, native := true } sent.token m (some sent.call)
      | none => σ
  | .send c place timeout d =>
      match σ.wrappers[place]? with
      | some w =>
          { σ with wrappers := σ.wrappers.eraseIdx place }.send i { inText := false } c w timeout d
      | none => σ

end Switchboard

namespace Switchboard

/-- One step, of the thread that it stands with. -/
def step (σ : Switchboard) (e : Nat × Move) : Switchboard :=
  σ.move e.1 e.2

def run (σ : Switchboard) (es : List (Nat × Move)) : Switchboard :=
  es.foldl step σ

end Switchboard

end Custody
