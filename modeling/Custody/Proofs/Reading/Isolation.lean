import Custody.Proofs.Writing.Unseen

/-! Readers of one message do not meet. Whatever else reads the message or writes to it, in whatever order,
a reader keeps the values as they were when it was made, those inside arrays among them, and is told what it
would be told on its own; and no read is felt by the message.
-/

namespace Custody

open State

/-- A use of a message, or of a position in its body. Positions are told by their places in the order of
making; a place without one is not used.
-/
inductive MessageUse
  | cursor
  | append (a : Argument)
  | appendAll (values : List Argument)
  /-- The native side replaces the body. -/
  | setBody (body : Body)
  | read (place : Nat) (act : ReadAct)
  | write (place : Nat) (a : Argument)
  | openContainer (place : Nat) (k : ArgumentType) (contained : Option String)
  | closeContainer (place inner : Nat)
  | appendFixed (place : Nat) (k : ArgumentType) (slice : Slice)
  | appendBuffer (place : Nat) (b : Buffer)

/-- A message, the state, and the positions in its body made so far: at the top, inside arrays that were
entered, and in containers that were opened.
-/
structure MessageCursors where
  message : Message
  state : State
  cursors : List BodyCursor := []

-----------------------------------------------------------------------------------------
-- A message and its positions
-----------------------------------------------------------------------------------------

/-- The position that was made, if it was, and the state. -/
def BodyCursor.made : Attempt BusError BodyCursor → List BodyCursor × State
  | (.ok c, s) => ([c], s)
  | (.error _, s) => ([], s)

/-- Uses the position at a place, if there is one. -/
def MessageCursors.use (d : MessageCursors) (place : Nat) (act : BodyCursor → List BodyCursor × State)
    : List BodyCursor × State :=
  d.cursors[place]?.elim ([], d.state) act

/-- The positions that a use makes, and the state after it. -/
def MessageUse.run (h : MessageUse) (d : MessageCursors) : List BodyCursor × State :=
  match h with
  | .cursor => BodyCursor.made (d.message.cursor d.state)
  | .append a => ([], (d.message.append a d.state).2)
  | .appendAll values => ([], (d.message.appendAll values d.state).2)
  | .setBody body =>
      ([], d.message.raw.elim d.state fun r =>
        d.state.setMessage r ((d.state.message r).setBody body))
  | .read place act => d.use place fun c => act.run c d.state
  | .write place a => d.use place fun c => ([], (c.append a d.state).2)
  | .openContainer place k contained =>
      d.use place fun c => BodyCursor.made (c.openContainer k contained d.state)
  | .closeContainer place inner =>
      d.use place fun c => d.use inner fun i => ([], (c.closeContainer i d.state).2)
  | .appendFixed place k slice => d.use place fun c => ([], (c.appendFixed k slice d.state).2)
  | .appendBuffer place b => d.use place fun c => ([], (c.appendBuffer b d.state).2)

/-- The read that a use is, at a place. -/
def MessageUse.readAt? (place : Nat) : MessageUse → Option ReadAct
  | .read p act => if p = place then some act else none
  | _ => none

namespace MessageCursors

/-- Before the first use there is no position. -/
def start (m : Message) (s : State) : MessageCursors :=
  { message := m, state := s }

variable (d : MessageCursors)

def step (h : MessageUse) : MessageCursors :=
  { d with state := (h.run d).2, cursors := d.cursors ++ (h.run d).1 }

def after (hs : List MessageUse) : MessageCursors :=
  hs.foldl step d

/-- What the reader at a place is told by a use, which must be a read there. -/
def told? (place : Nat) (h : MessageUse) : Option Told :=
  (h.readAt? place).bind fun act => d.cursors[place]?.map fun c => act.tell c d.state

/-- What the reader at a place is told by one use after another. -/
def answers (d : MessageCursors) (place : Nat) : List MessageUse → List Told
  | [] => []
  | h :: hs => (d.told? place h).toList ++ (d.step h).answers place hs

/-- A use makes a position, and this is what its reader has before it: all values of the message as they
are, or those inside the array that another reader comes to, or nothing in a container.
-/
inductive Makes : MessageUse → View → Prop
  | top {r} (raw : d.message.raw = some r) : Makes .cursor ⟨(d.state.message r).body, []⟩
  | array {place q inner} (reader : d.cursors[place]? = some ⟨some q⟩)
      (inside : (d.state.view q).rest.inside? = some inner)
    : Makes (.read place .array) inner.view
  | container {place k contained c s} (reader : d.cursors[place]? = some c)
      (opened : ∃ inner, c.openContainer k contained d.state = (.ok inner, s))
    : Makes (.openContainer place k contained) ⟨.empty, []⟩

end MessageCursors

-----------------------------------------------------------------------------------------
-- One use
-----------------------------------------------------------------------------------------

/-- What a use did: it moved no reader but the given one, and made one new position at most. -/
structure State.Used (moved : Option (Ref Native.BodyCursor)) (s : State)
    (done : List BodyCursor × State) : Prop where
  unplanned : s.Unplanned → done.2.Unplanned
  calm : s.thread.Calm → done.2.thread.Calm
  count : s.cursorCount ≤ done.2.cursorCount
  view
    : ∀ q : Ref Native.BodyCursor,
        q.index < s.cursorCount → moved ≠ some q → done.2.view q = s.view q
  made
    : done.1 = []
      ∨ done.1 = [⟨some ⟨s.cursorCount⟩⟩] ∧ s.cursorCount < done.2.cursorCount

section

variable {s t : State} {q : Ref Native.BodyCursor} {moved : Option (Ref Native.BodyCursor)}

theorem State.Unseen.used (unseen : Unseen s t)
    : Used moved s ([], t) where
  unplanned := unseen.unplanned
  calm := unseen.calm
  count := unseen.count
  view q old _ := unseen.view q old
  made := .inl rfl

/-- A position is made where none was. -/
theorem State.Unseen.used_made {answer : Attempt BusError BodyCursor} (unseen : Unseen s answer.2)
    (new
      : ∀ c t, answer = (.ok c, t) → c = ⟨some ⟨s.cursorCount⟩⟩ ∧ s.cursorCount < t.cursorCount)
    : Used moved s (BodyCursor.made answer) := by
  obtain ⟨e | c, t⟩ := answer
  · exact unseen.used
  · obtain ⟨rfl, count⟩ := new c t rfl
    have frame : Used moved s ([], t) := unseen.used
    exact { frame with made := .inr ⟨rfl, count⟩ }

theorem Message.used_cursor (m : Message) (s : State)
    : Used moved s (BodyCursor.made (m.cursor s)) := by
  apply (m.unseen_cursor s).used_made
  intro c t made
  cases raw : m.raw with
  | none => simp [cursor, raw, State.live] at made
  | some r =>
      obtain ⟨rfl, rfl⟩ := cursor_ok raw made
      exact ⟨rfl, s.lt_cursorCount_newBodyCursor _⟩

theorem BodyCursor.used_openContainer (old : q.index < s.cursorCount) (k : ArgumentType)
    (contained : Option String)
    : Used moved s (BodyCursor.made (BodyCursor.openContainer ⟨some q⟩ k contained s)) := by
  apply (unseen_openContainer old k contained).used_made
  intro c t opened
  obtain ⟨rfl, rfl⟩ := openContainer_ok old opened
  exact ⟨rfl, s.lt_cursorCount_newBodyCursor _⟩

/-- A read moves its own reader alone. -/
theorem ReadAct.used (act : ReadAct) (unplanned : s.Unplanned) (old : q.index < s.cursorCount)
    : Used (some q) s (act.run ⟨some q⟩ s) where
  unplanned := (act.readsAt unplanned old).moves.unplanned
  calm := (act.readsAt unplanned old).moves.calm
  count := (act.readsAt unplanned old).moves.count
  view p oldOther apart :=
    (act.readsAt unplanned old).moves.view oldOther fun same => apart (congrArg some same.symm)
  made := by
    cases act with
    | signature | currentType | basic | bytes => exact .inl rfl
    | array =>
        cases inside : (s.view q).rest.inside? with
        | none =>
            rw [run, BodyCursor.readArray_view unplanned old, inside]
            exact .inl rfl
        | some inner =>
            obtain ⟨t, entered, -, -, count⟩ := BodyCursor.readArray_enters unplanned old inside
            rw [run, entered]
            exact .inr ⟨rfl, count⟩

end

-----------------------------------------------------------------------------------------
-- Any uses
-----------------------------------------------------------------------------------------

namespace MessageCursors

/-- What holds at any time. -/
structure Sound (d : MessageCursors) : Prop where
  unplanned : d.state.Unplanned
  calm : d.state.thread.Calm
  placed : ∀ c ∈ d.cursors, ∃ q, c = ⟨some q⟩ ∧ q.index < d.state.cursorCount
  apart : d.cursors.Nodup

/-- The reader at a place has this before it. -/
def Shows (d : MessageCursors) (place : Nat) (v : View) : Prop :=
  ∃ q, d.cursors[place]? = some ⟨some q⟩ ∧ d.state.view q = v

/-- The reader that a use moves. -/
def moved? (d : MessageCursors) : MessageUse → Option (Ref Native.BodyCursor)
  | .read place _ => d.cursors[place]?.bind BodyCursor.raw
  | _ => none

variable {d : MessageCursors} {h : MessageUse} {place : Nat} {v : View}

theorem Sound.use (sound : d.Sound) {moved : Option (Ref Native.BodyCursor)}
    {act : BodyCursor → List BodyCursor × State}
    (acts
      : ∀ q, d.cursors[place]? = some ⟨some q⟩ → q.index < d.state.cursorCount
        → Used moved d.state (act ⟨some q⟩))
    : Used moved d.state (d.use place act) := by
  unfold MessageCursors.use
  cases there : d.cursors[place]? with
  | none => exact (Unseen.refl d.state).used
  | some c =>
      obtain ⟨q, rfl, old⟩ := sound.placed c (List.mem_of_getElem? there)
      exact acts q there old

/-- One case for each use. -/
theorem Sound.used (sound : d.Sound) (h : MessageUse)
    : Used (d.moved? h) d.state (h.run d) := by
  cases h with
  | cursor => exact d.message.used_cursor d.state
  | append a => exact (d.message.unseen_append a d.state).used
  | appendAll values => exact (d.message.unseen_appendAll values d.state).used
  | setBody body =>
      apply Unseen.used
      cases d.message.raw with
      | none => exact .refl d.state
      | some r => exact .setMessage d.state r _
  | read place act =>
      refine sound.use fun q reader old => ?_
      rw [moved?, reader]
      exact act.used sound.unplanned old
  | write place a =>
      exact sound.use fun q _ old => (BodyCursor.unseen_append old a).used
  | openContainer place k contained =>
      exact sound.use fun q _ old => BodyCursor.used_openContainer old k contained
  | closeContainer place inner =>
      refine sound.use fun q _ old => ?_
      exact sound.use fun p _ inside => (BodyCursor.unseen_closeContainer old inside).used
  | appendFixed place k slice =>
      exact sound.use fun q _ old => (BodyCursor.unseen_appendFixed old k slice).used
  | appendBuffer place b =>
      exact sound.use fun q _ old => (BodyCursor.unseen_appendBuffer old b).used

/-- What is made is new. -/
theorem Sound.step (sound : d.Sound) (h : MessageUse)
    : (d.step h).Sound := by
  have used := sound.used h
  have kept : ∀ c ∈ d.cursors, ∃ q, c = ⟨some q⟩ ∧ q.index < (d.step h).state.cursorCount := by
    intro c member
    obtain ⟨q, rfl, old⟩ := sound.placed c member
    exact ⟨q, rfl, Nat.lt_of_lt_of_le old used.count⟩
  refine ⟨used.unplanned sound.unplanned, used.calm sound.calm, ?_, ?_⟩
  · intro c member
    rcases List.mem_append.1 member with old | new
    · exact kept c old
    · rcases used.made with none | ⟨made, count⟩
      · simp [none] at new
      · rw [made] at new
        exact ⟨_, List.mem_singleton.1 new, count⟩
  · rw [MessageCursors.step]
    rcases used.made with none | ⟨made, count⟩
    · rw [none, List.append_nil]
      exact sound.apart
    · rw [made]
      refine List.nodup_append.2 ⟨sound.apart, List.pairwise_singleton _ _, ?_⟩
      intro c old new member
      obtain ⟨q, rfl, placed⟩ := sound.placed c old
      rw [List.mem_singleton.1 member]
      rintro ⟨⟩
      exact Nat.lt_irrefl _ placed

theorem Sound.old (sound : d.Sound) {q : Ref Native.BodyCursor}
    (reader : d.cursors[place]? = some ⟨some q⟩)
    : q.index < d.state.cursorCount := by
  obtain ⟨p, same, old⟩ := sound.placed _ (List.mem_of_getElem? reader)
  obtain ⟨rfl⟩ := BodyCursor.mk.inj same
  exact old

theorem Sound.after (sound : d.Sound) (hs : List MessageUse)
    : (d.after hs).Sound := by
  induction hs generalizing d with
  | nil => exact sound
  | cons h hs ih => exact ih (sound.step h)

/-- Two places do not share a position. -/
theorem Sound.same_place (sound : d.Sound) {other : Nat} {c : BodyCursor}
    (here : d.cursors[place]? = some c) (there : d.cursors[other]? = some c)
    : place = other := by
  obtain ⟨inside, -⟩ := List.getElem?_eq_some_iff.1 here
  exact (List.getElem?_inj inside sound.apart).1 (here.trans there.symm)

theorem Shows.told? (shows : d.Shows place v) (sound : d.Sound) (h : MessageUse)
    : d.told? place h = (h.readAt? place).map v.tell := by
  obtain ⟨q, reader, rfl⟩ := shows
  have old := sound.old reader
  rw [MessageCursors.told?, reader]
  cases h.readAt? place with
  | none => rfl
  | some act => exact congrArg some (act.tell_view sound.unplanned sound.calm old)

/-- A use moves a reader as far as it is a read of it. -/
theorem Shows.step (shows : d.Shows place v) (sound : d.Sound) (h : MessageUse)
    : (d.step h).Shows place ((h.readAt? place).elim v v.after) := by
  obtain ⟨q, reader, rfl⟩ := shows
  have old := sound.old reader
  refine ⟨q, List.getElem?_append_left (List.getElem?_eq_some_iff.1 reader).1 ▸ reader, ?_⟩
  have kept (apart : d.moved? h ≠ some q) : (d.step h).state.view q = d.state.view q :=
    (sound.used h).view q old apart
  cases h with
  | read k act =>
      by_cases same : k = place
      · subst k
        have moved := act.run_view sound.unplanned old
        simpa [MessageCursors.step, MessageUse.run, MessageCursors.use, reader, MessageUse.readAt?]
          using moved
      · rw [MessageUse.readAt?, if_neg same]
        -- A read at another place moves another position, as no two places share one.
        refine kept fun moves => same ?_
        obtain ⟨c, there, raw⟩ := Option.bind_eq_some_iff.1 moves
        rw [BodyCursor.eq_of_raw raw] at there
        exact sound.same_place there reader
  | _ => exact kept nofun

/-- What the reader at a place is told is what it would be told on its own, by induction on the uses. -/
theorem Shows.answers (shows : d.Shows place v) (sound : d.Sound) (hs : List MessageUse)
    : d.answers place hs = v.answers (hs.filterMap (MessageUse.readAt? place)) := by
  induction hs generalizing d v with
  | nil => rfl
  | cons h hs ih =>
      have told := shows.told? sound h
      have later := ih (shows.step sound h) (sound.step h)
      rw [MessageCursors.answers, told, later]
      cases here : h.readAt? place with
      | none => simp [here]
      | some act => simp [here, View.answers]

/-- What a reader has before it is what its own reads leave of what it had, by induction on the uses. -/
theorem Shows.after (shows : d.Shows place v) (sound : d.Sound) (hs : List MessageUse)
    : (d.after hs).Shows place
        ((hs.filterMap (MessageUse.readAt? place)).foldl View.after v) := by
  induction hs generalizing d v with
  | nil => exact shows
  | cons h hs ih =>
      have later := ih (shows.step sound h) (sound.step h)
      cases here : h.readAt? place with
      | none =>
          rw [here] at later
          rw [List.filterMap_cons_none here]
          exact later
      | some act =>
          rw [here] at later
          rw [List.filterMap_cons_some here]
          exact later

/-- The array that a reader can enter is the one that it has before it. -/
theorem Shows.makes_array_iff (shows : d.Shows place v) {w : View}
    : d.Makes (.read place .array) w ↔ ∃ inner, v.rest.inside? = some inner ∧ w = inner.view := by
  obtain ⟨q, reader, rfl⟩ := shows
  constructor
  · intro makes
    cases makes with
    | array reader' inside =>
        obtain ⟨⟩ := reader.symm.trans reader'
        exact ⟨_, inside, rfl⟩
  · intro there
    obtain ⟨inner, inside, rfl⟩ := there
    exact .array reader inside

theorem shows_made {q : Ref Native.BodyCursor} {t : State} {c : Native.BodyCursor}
    (made : h.run d = ([⟨some q⟩], t)) (stands : t.bodyCursor q = c)
    : (d.step h).Shows d.cursors.length c.view := by
  refine ⟨q, ?_, ?_⟩
  · rw [MessageCursors.step, made]
    exact List.getElem?_concat_length
  · rw [MessageCursors.step, made, ← stands]
    rfl

/-- A reader starts with what its making shows. -/
theorem Makes.shows (makes : d.Makes h v) (sound : d.Sound)
    : (d.step h).Shows d.cursors.length v := by
  cases makes with
  | top raw =>
      have run : MessageUse.cursor.run d = _ :=
        congrArg BodyCursor.made (Message.cursor_eq sound.unplanned raw)
      exact shows_made run (bodyCursor_newBodyCursor_self _ _)
  | @array place q inner reader inside =>
      obtain ⟨t, entered, -, stands, -⟩ :=
        BodyCursor.readArray_enters sound.unplanned (sound.old reader) inside
      refine shows_made ?_ stands
      rw [MessageUse.run, MessageCursors.use, reader, Option.elim_some, ReadAct.run, entered]
  | @container place k contained c s reader opened =>
      obtain ⟨q, rfl, old⟩ := sound.placed _ (List.mem_of_getElem? reader)
      obtain ⟨inner, opened⟩ := opened
      obtain ⟨rfl, rfl⟩ := BodyCursor.openContainer_ok old opened
      have run : (MessageUse.openContainer place k contained).run d = _ :=
        (congrArg (Option.elim · _ _) reader).trans (congrArg BodyCursor.made opened)
      exact shows_made run (bodyCursor_newBodyCursor_self _ _)

/-- A read is not felt by the message. -/
theorem Sound.message_read (sound : d.Sound) (place : Nat) (act : ReadAct) (r : Ref Native.Message)
    : (d.step (.read place act)).state.message r = d.state.message r := by
  rw [MessageCursors.step, MessageUse.run, MessageCursors.use]
  cases reader : d.cursors[place]? with
  | none => rfl
  | some c =>
      obtain ⟨q, rfl, old⟩ := sound.placed c (List.mem_of_getElem? reader)
      exact (act.readsAt sound.unplanned old).moves.message r

/-- Only its own reads are told to a reader. -/
theorem filterMap_readAt? (place : Nat) (acts : List ReadAct)
    : (acts.map (MessageUse.read place)).filterMap (MessageUse.readAt? place) = acts := by
  induction acts with
  | nil => rfl
  | cons act acts ih => simp [MessageUse.readAt?, ih]

theorem reader_of_made {c : BodyCursor} {act : BodyCursor → List BodyCursor × State}
    (made : (d.use place act).1 = [c])
    : ∃ b, d.cursors[place]? = some b ∧ (act b).1 = [c] := by
  unfold MessageCursors.use at made
  cases reader : d.cursors[place]? with
  | none => simp [reader] at made
  | some b => exact ⟨b, rfl, by simpa [reader] using made⟩

/-- A position is made in one of three ways. -/
theorem Sound.makes (sound : d.Sound) {c : BodyCursor} (made : (h.run d).1 = [c])
    : ∃ v, d.Makes h v := by
  cases h with
  | append | appendAll | setBody => simp [MessageUse.run] at made
  | write | appendFixed | appendBuffer =>
      obtain ⟨_, -, none⟩ := reader_of_made made
      simp at none
  | closeContainer =>
      obtain ⟨_, -, inside⟩ := reader_of_made made
      obtain ⟨_, -, none⟩ := reader_of_made inside
      simp at none
  | cursor =>
      cases raw : d.message.raw with
      | none => simp [MessageUse.run, Message.cursor, raw, State.live, BodyCursor.made] at made
      | some r => exact ⟨_, .top raw⟩
  | read place act =>
      obtain ⟨b, reader, made⟩ := reader_of_made made
      obtain ⟨q, rfl, old⟩ := sound.placed b (List.mem_of_getElem? reader)
      cases act with
      | signature | currentType | basic | bytes => simp [ReadAct.run] at made
      | array =>
          rw [ReadAct.run, BodyCursor.readArray_view sound.unplanned old] at made
          cases inside : (d.state.view q).rest.inside? with
          | none => simp [inside] at made
          | some inner => exact ⟨_, .array reader inside⟩
  | openContainer place k contained =>
      obtain ⟨b, reader, made⟩ := reader_of_made made
      cases opened : b.openContainer k contained d.state with
      | mk answer t =>
          cases answer with
          | error e => simp [BodyCursor.made, opened] at made
          | ok inner => exact ⟨_, .container reader ⟨inner, opened⟩⟩

/-- However the uses of a message and of the positions in its body follow one another, a reader has before it
what its own reads leave of what it had when it was made. It is told the same as if from its making on there
had been its own reads alone, and that is what it would be told on its own; the arrays that it can enter are
those that it had then. No read changes the message.
-/
theorem readers_isolated {m : Message} {s : State} (unplanned : s.Unplanned)
    (calm : s.thread.Calm) {before : List MessageUse} {d : MessageCursors}
    (sofar : (MessageCursors.start m s).after before = d) {h : MessageUse} {c : BodyCursor}
    (made : (h.run d).1 = [c]) (later : List MessageUse)
    : ∃ v acts,
        d.Makes h v
        ∧ acts = later.filterMap (MessageUse.readAt? d.cursors.length)
        ∧ (d.step h).cursors[d.cursors.length]? = some c
        ∧ (d.step h).answers d.cursors.length later
          = (d.step h).answers d.cursors.length (acts.map (.read d.cursors.length))
        ∧ (d.step h).answers d.cursors.length later = v.answers acts
        ∧ ((d.step h).after later).Shows d.cursors.length (acts.foldl View.after v)
        ∧ (∀ w,
            ((d.step h).after later).Makes (.read d.cursors.length .array) w
            ↔ ∃ inner, (acts.foldl View.after v).rest.inside? = some inner ∧ w = inner.view)
        ∧ ∀ place act r,
            (((d.step h).after later).step (.read place act)).state.message r
              = ((d.step h).after later).state.message r := by
  have start : (MessageCursors.start m s).Sound :=
    ⟨unplanned, calm, by simp [MessageCursors.start], List.nodup_nil⟩
  have sound : d.Sound := sofar ▸ start.after before
  have soundNow := sound.step h
  obtain ⟨v, makes⟩ := sound.makes made
  have shows := makes.shows sound
  have answers := shows.answers soundNow later
  have left := shows.after soundNow later
  refine ⟨v, _, makes, rfl, ?_, ?_, answers, left, ?_, ?_⟩
  · rw [MessageCursors.step, made]
    exact List.getElem?_concat_length
  · rw [answers, shows.answers soundNow, filterMap_readAt?]
  · exact fun w => left.makes_array_iff
  · exact (soundNow.after later).message_read

/-- A world with one message, of an array of one integer and of an integer. -/
def sharedState : State :=
  { world :=
      { messages :=
          ⟨[{ refs := 1, body := .container 'a' (.one 'i' (.int 1)) (.one 'i' (.int 2)) }]⟩ } }

def sharedStart : MessageCursors :=
  start { raw := some ⟨0⟩, own := true } sharedState

/-- The message is written to, its body is replaced, and a second reader writes to the new one. -/
def replacing : List MessageUse :=
  [.append (.int32 8), .setBody (.container 'a' (.one 'i' (.int 9)) .empty), .cursor,
    .write 1 (.int32 3)]

/-- The message and its readers when the first of them is about to enter its array. -/
def replaced : MessageCursors :=
  sharedStart.after (.cursor :: replacing)

/-- The readers take turns, and the body is replaced once more. -/
def takingTurns : List MessageUse :=
  [.read 1 .array, .read 2 .basic, .append (.int32 9), .setBody .empty, .read 0 .basic,
    .read 3 .basic, .read 2 .basic]

/-- The first reader is made before the body is replaced, and enters its array after that: it is told the
integer that was there at first.
-/
theorem replaced_readers_isolated
    : (replaced.state.message ⟨0⟩).body = .container 'a' (.one 'i' (.int 9)) (.one 'i' (.int 3))
      ∧ (replaced.step (.read 0 .array)).answers 2 takingTurns
        = [.basic (.ok (.int32 1)), .basic (.error (.read '\x00'))] := by
  refine ⟨rfl, ?_⟩
  obtain ⟨v, _, makes, rfl, -, -, -, -, arrays, -⟩ :=
    readers_isolated (show State.Unplanned sharedState from rfl) ⟨rfl, rfl⟩
      (show (start _ sharedState).after [] = sharedStart from rfl)
      (show (MessageUse.cursor.run sharedStart).1 = _ from rfl) replacing
  obtain ⟨w, _, makesInner, rfl, -, -, told, -⟩ :=
    readers_isolated (show State.Unplanned sharedState from rfl) ⟨rfl, rfl⟩
      (show (start _ sharedState).after (.cursor :: replacing) = replaced from rfl)
      (show ((MessageUse.read 0 .array).run replaced).1 = _ from rfl) takingTurns
  cases makes with
  | @top r raw =>
      obtain rfl : (⟨0⟩ : Ref Native.Message) = r := Option.some.inj raw
      obtain ⟨inner, inside, rfl⟩ := (arrays w).1 makesInner
      obtain rfl : inner = { rest := .one 'i' (.int 1) } := (Option.some.inj inside).symm
      exact told

end MessageCursors

end Custody
