import Custody.Proofs.Reading.Positions

/-! Whether a reader can tell what comes next.
A position shows a structure and a dictionary entry as the end of the values, because their brackets
name no type; every other value is told by its type. Readers of one message keep to its values, so
this holds at every position that they reach.
-/

namespace Custody

open BodyCursor

/-- A use of a position for reading. -/
inductive ReadAct
  | signature
  | currentType
  | basic
  | array
  | bytes

/-- Reads at a position; answers the position inside an array that the read made, if any. -/
def ReadAct.run (act : ReadAct) (c : BodyCursor) (s : State) : List BodyCursor × State :=
  match act with
  | .signature => ([], (c.signature s).2)
  | .currentType => ([], (c.currentType s).2)
  | .basic => ([], (c.read s).2)
  | .array =>
      match c.readArray s with
      | (.ok inner, s) => ([inner], s)
      | (.error _, s) => ([], s)
  | .bytes => ([], (c.readBytes s).2)

/-- The readers of a message after some reads, in any order and number, and the state they left.
A reader starts at a new position of the message or inside an array that another one entered.
-/
inductive Readers (m : Message) (start : State) : List BodyCursor → State → Prop
  | none : Readers m start [] start
  | fresh {readers s c t} (sofar : Readers m start readers s) (made : m.cursor s = (.ok c, t))
    : Readers m start (c :: readers) t
  | read {readers s c} (sofar : Readers m start readers s) (act : ReadAct) (reader : c ∈ readers)
    : Readers m start ((act.run c s).1 ++ readers) (act.run c s).2

/-- A reader tells the values before it: the type of the first, nothing only when there is none,
and the code of a container to a read of a basic value, with NUL for the end alone.
-/
structure BodyCursor.Tells (c : BodyCursor) (s : State) (next : Body) : Prop where
  type : (c.currentType s).1 = next.type?
  ended : (c.currentType s).1 = none ↔ next = .empty
  refused
    : ∀ t,
        next.type? = some t
        → t.isContainer = true
        → (c.read s).1 = .error (.read t.code)
  nul : (c.read s).1 = .error (.read '\x00') ↔ next = .empty

-----------------------------------------------------------------------------------------
-- One position
-----------------------------------------------------------------------------------------

section

variable {s : State} {r : Ref Native.BodyCursor} {rest : Body}

/-- A record is told as the end of the values. -/
theorem tells_record_as_end (unplanned : s.Unplanned) (next : (s.bodyCursor r).rest = rest)
    (coded : rest.wellCoded = true) (record : rest.opensRecord = true)
    : (BodyCursor.currentType ⟨some r⟩ s).1 = none
      ∧ (BodyCursor.read ⟨some r⟩ s).1 = .error (.read '\x00') := by
  have told : rest.toldType = none := by rw [Body.toldType_eq, if_pos record]
  constructor
  · rw [currentType_eq unplanned next coded, told]
  · rw [read_eq unplanned next coded, told]

/-- Outside records the outcome of a read is never NUL before the end. -/
theorem read_nul_iff (unplanned : s.Unplanned) (next : (s.bodyCursor r).rest = rest)
    (coded : rest.wellCoded = true)
    : (BodyCursor.read ⟨some r⟩ s).1 = .error (.read '\x00') ↔ rest.toldType = none := by
  rw [read_eq unplanned next coded]
  cases rest.toldType with
  | none => simp
  | some t =>
      have letter := t.code_ne_nul
      dsimp only
      split
      · simp [letter]
      · split <;> simp [letter]

/-- Exactly where no record comes next does a reader tell what comes next. -/
theorem tells_iff (unplanned : s.Unplanned) (next : (s.bodyCursor r).rest = rest)
    (coded : rest.wellCoded = true)
    : BodyCursor.Tells ⟨some r⟩ s rest ↔ rest.opensRecord = false := by
  have typed := Body.type?_eq_none_iff coded
  have told := rest.toldType_eq
  have read_nul := read_nul_iff unplanned next coded
  constructor
  · intro tells
    by_cases record : rest.opensRecord = true
    · have shown := tells_record_as_end unplanned next coded record
      have ended := tells.ended.1 shown.1
      simp [ended, Body.opensRecord] at record
    · simpa using record
  · intro plain
    simp only [plain, Bool.false_eq_true, if_false] at told
    refine ⟨?_, ?_, ?_, ?_⟩
    · rw [currentType_eq unplanned next coded, told]
    · rw [currentType_eq unplanned next coded, told, typed]
    · intro t type container
      rw [read_eq unplanned next coded, told, type]
      simp [ArgumentType.isBasic, container]
    · rw [read_nul, told, typed]

end

-----------------------------------------------------------------------------------------
-- One read
-----------------------------------------------------------------------------------------

/-- A read at a position moves that position alone, and what it makes stands onward of it. -/
structure ReadsAt (r : Ref Native.BodyCursor) (s : State) (done : List BodyCursor × State)
    : Prop where
  moves : State.ReadAt r s done.2
  made
    : ∀ inner ∈ done.1,
        ∃ q,
          inner.raw = some q
          ∧ q.index < done.2.cursorCount
          ∧ (s.bodyCursor r).rest.Onward (done.2.bodyCursor q).rest

section

variable {s : State} {r : Ref Native.BodyCursor}

theorem ReadsAt.of_moves {t : State} (moves : State.ReadAt r s t)
    : ReadsAt r s ([], t) where
  moves := moves
  made _ inner := by cases inner

/-- Reading the basic value at a position moves that position, if any. -/
theorem readAt_read (unplanned : s.Unplanned) (old : r.index < s.cursorCount)
    : State.ReadAt r s (BodyCursor.read ⟨some r⟩ s).2 := by
  rw [read_shown unplanned rfl]
  split
  · exact .refl r s
  · next t told =>
      split
      · exact .refl r s
      · next basic =>
          have notArray := t.code_ne_array (by simpa using basic)
          have moved := State.readAt_readSlot unplanned old notArray
          split <;> exact moved

/-- Entering an array moves the position past it, and makes one inside. -/
theorem readsAt_enter (old : r.index < s.cursorCount) {rest : Body} {inside : Native.BodyCursor}
    (past : (s.bodyCursor r).rest.Onward rest) (into : (s.bodyCursor r).rest.Onward inside.rest)
    : ReadsAt r s
        ([⟨some ⟨(s.moveTo r rest).cursorCount⟩⟩],
          ((s.moveTo r rest).newBodyCursor inside).2) where
  moves := (State.ReadAt.moveTo old past).newBodyCursor inside
  made inner member := by
    obtain rfl := List.mem_singleton.1 member
    refine ⟨_, rfl, State.lt_cursorCount_newBodyCursor _ inside, ?_⟩
    rw [State.bodyCursor_newBodyCursor_self]
    exact into

theorem readsAt_readArray (unplanned : s.Unplanned) (old : r.index < s.cursorCount)
    : ReadsAt r s (ReadAct.array.run ⟨some r⟩ s) := by
  by_cases array : (s.bodyCursor r).rest.code? = some 'a'
  · cases next : (s.bodyCursor r).rest with
    | empty => simp [next, Body.code?] at array
    | scalar found value rest =>
        obtain rfl : found = 'a' := by simpa [next, Body.code?] using array
        rw [ReadAct.run, readArray_scalar unplanned next]
        exact readsAt_enter old (next ▸ .pastScalar (.here _)) (next ▸ .insideBlock (.here _))
    | container found items rest =>
        obtain rfl : found = 'a' := by simpa [next, Body.code?] using array
        rw [ReadAct.run, readArray_container unplanned next]
        exact readsAt_enter old (next ▸ .pastContainer (.here _)) (next ▸ .inside (.here _))
  · rw [ReadAct.run, readArray_other unplanned array]
    exact .of_moves (.refl r s)

/-- Copying a block of bytes does not touch the bus. -/
theorem sameBus_readBytes (unplanned : s.Unplanned)
    : s.SameBus (BodyCursor.readBytes ⟨some r⟩ s).2 := by
  rw [readBytes_eq unplanned]
  generalize List.take _ _ = bytes
  have same := Buffer.sameBus_ofBytes bytes s
  split
  · exact .refl s
  · split
    · next made =>
        rw [made] at same
        exact same
    · next refused =>
        rw [refused] at same
        exact same

theorem ReadAct.readsAt (act : ReadAct) (unplanned : s.Unplanned) (old : r.index < s.cursorCount)
    : ReadsAt r s (act.run ⟨some r⟩ s) := by
  cases act with
  | signature =>
      rw [run, signature_shown unplanned rfl]
      exact .of_moves (.refl r s)
  | currentType =>
      rw [run, currentType_shown unplanned rfl]
      exact .of_moves (.refl r s)
  | basic => exact .of_moves (readAt_read unplanned old)
  | array => exact readsAt_readArray unplanned old
  | bytes => exact .of_moves (.of_sameBus (sameBus_readBytes unplanned))

end

-----------------------------------------------------------------------------------------
-- Any reads of one message
-----------------------------------------------------------------------------------------

/-- What any reads of a message with the given body keep. -/
structure Reading (r : Ref Native.Message) (b : Body) (readers : List BodyCursor) (s : State)
    : Prop where
  unplanned : s.Unplanned
  body : (s.message r).body = b
  placed
    : ∀ c ∈ readers,
        ∃ q, c.raw = some q ∧ q.index < s.cursorCount ∧ b.Onward (s.bodyCursor q).rest

namespace Reading

variable {r : Ref Native.Message} {b : Body} {readers : List BodyCursor} {s t : State}

/-- Readers stand where they stood, or onward of that. -/
theorem onward (sofar : Reading r b readers s) {q : Ref Native.BodyCursor} (done : State.ReadAt q s t)
    : ∀ c ∈ readers,
        ∃ q, c.raw = some q ∧ q.index < t.cursorCount ∧ b.Onward (t.bodyCursor q).rest := by
  intro c reader
  obtain ⟨q, raw, old, way⟩ := sofar.placed c reader
  exact ⟨q, raw, Nat.lt_of_lt_of_le old done.count, way.trans (done.onward old)⟩

/-- A new reader starts at the first value. -/
theorem fresh {m : Message} {c : BodyCursor} (sofar : Reading r b readers s)
    (raw : m.raw = some r) (made : m.cursor s = (.ok c, t))
    : Reading r b (c :: readers) t := by
  obtain ⟨q, u, fresh, done, new, stands⟩ := Message.cursor_stands sofar.unplanned raw
  obtain ⟨rfl, rfl⟩ : ⟨some q⟩ = c ∧ u = t := by
    simpa using fresh.symm.trans made
  refine ⟨done.unplanned sofar.unplanned, ?_, ?_⟩
  · rw [done.message, sofar.body]
  · intro c reader
    rcases List.mem_cons.1 reader with same | other
    · refine ⟨q, by rw [same], new, ?_⟩
      rw [stands, sofar.body]
      exact .here b
    · exact sofar.onward done c other

/-- One more read, by a reader that there is. -/
theorem read {c : BodyCursor} (sofar : Reading r b readers s) (act : ReadAct)
    (reader : c ∈ readers)
    : Reading r b ((act.run c s).1 ++ readers) (act.run c s).2 := by
  obtain ⟨q, raw, old, way⟩ := sofar.placed c reader
  obtain rfl := BodyCursor.eq_of_raw raw
  obtain ⟨done, made⟩ := act.readsAt sofar.unplanned old
  refine ⟨done.unplanned sofar.unplanned, ?_, ?_⟩
  · rw [done.message, sofar.body]
  · intro c reader
    rcases List.mem_append.1 reader with new | old
    · obtain ⟨q, raw, index, inside⟩ := made c new
      exact ⟨q, raw, index, way.trans inside⟩
    · exact sofar.onward done c old

end Reading

/-- By induction on the reads. -/
theorem Readers.reading {m : Message} {r : Ref Native.Message} {start s : State}
    {readers : List BodyCursor} (reads : Readers m start readers s) (raw : m.raw = some r)
    (unplanned : start.Unplanned)
    : Reading r (start.message r).body readers s := by
  induction reads with
  | none => exact ⟨unplanned, rfl, by simp⟩
  | fresh _ made ih => exact ih.fresh raw made
  | read _ act reader ih => exact ih.read act reader

/-- At every position that reads of a message can reach, its reader tells what comes next, but for
one thing: a structure or a dictionary entry looks like the end.
-/
theorem readers_tell_all_but_records {m : Message} {r : Ref Native.Message} {start s : State}
    {readers : List BodyCursor} {c : BodyCursor} (raw : m.raw = some r)
    (unplanned : start.Unplanned) (coded : (start.message r).body.wellCoded = true)
    (reads : Readers m start readers s) (reader : c ∈ readers)
    : ∃ q,
        c.raw = some q
        ∧ (start.message r).body.Onward (s.bodyCursor q).rest
        ∧ (c.Tells s (s.bodyCursor q).rest ↔ (s.bodyCursor q).rest.opensRecord = false)
        ∧ ((s.bodyCursor q).rest.opensRecord = true
            → (c.currentType s).1 = none ∧ (c.read s).1 = .error (.read '\x00')) := by
  have reading := reads.reading raw unplanned
  obtain ⟨q, place, _, way⟩ := reading.placed c reader
  obtain rfl := BodyCursor.eq_of_raw place
  have codedRest := way.wellCoded coded
  refine ⟨q, rfl, way, tells_iff reading.unplanned rfl codedRest, ?_⟩
  exact tells_record_as_end reading.unplanned rfl codedRest

/-- A world with one message, whose body is a structure of one integer. -/
def recordState : State :=
  { world := { messages := ⟨[{ refs := 1, body := .box 'r' (.one 'i' (.int 5)) }]⟩ } }

/-- The message of that world. -/
def recordMessage : Message :=
  { raw := some ⟨0⟩, own := true }

theorem readers_recordMessage
    : Readers recordMessage recordState [⟨some ⟨0⟩⟩]
        (recordState.newBodyCursor
          { target := some ⟨0⟩, rest := .box 'r' (.one 'i' (.int 5)) }).2 :=
  .fresh .none rfl

/-- The reader of a structure tells it as the end. -/
theorem recordMessage_told_as_end
    : recordState.Unplanned
      ∧ (recordState.message ⟨0⟩).body.wellCoded = true
      ∧ ∃ s,
          Readers recordMessage recordState [⟨some ⟨0⟩⟩] s
          ∧ (BodyCursor.currentType ⟨some ⟨0⟩⟩ s).1 = none
          ∧ (BodyCursor.read ⟨some ⟨0⟩⟩ s).1 = .error (.read '\x00') := by
  have unplanned : recordState.Unplanned := rfl
  refine ⟨unplanned, rfl, _, readers_recordMessage, ?_⟩
  obtain ⟨q, place, _, _, untold⟩ :=
    readers_tell_all_but_records rfl unplanned rfl readers_recordMessage
      (List.mem_singleton_self _)
  obtain rfl : q = ⟨0⟩ := by simpa using place.symm
  exact untold rfl

/-- So a structure still to be read is not told as one. -/
theorem recordMessage_untold
    : ¬ ∀ (readers : List BodyCursor) (s : State) (c : BodyCursor) (q : Ref Native.BodyCursor),
        Readers recordMessage recordState readers s
        → c ∈ readers
        → c.raw = some q
        → c.Tells s (s.bodyCursor q).rest := by
  intro told
  have tells := told _ _ _ ⟨0⟩ readers_recordMessage (List.mem_singleton_self _) rfl
  have unplanned : recordState.Unplanned := rfl
  have plain := (tells_iff (unplanned.newBodyCursor _) rfl rfl).1 tells
  exact Bool.noConfusion plain

end Custody
