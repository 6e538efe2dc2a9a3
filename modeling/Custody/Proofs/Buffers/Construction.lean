import Custody.BodyCursor
import Custody.Proofs.Buffers.Making
import Custody.Proofs.ByteLists.Reference

/-! Buffers are made exactly or not at all. Each way to make one answers a new buffer with the bytes
asked for, or an error that tells what failed; a buffer that could not be filled is freed once, on the
spot. Buffers that were there stay as they are, and the new one shares nothing with them.
-/

namespace Custody

-----------------------------------------------------------------------------------------
-- Changes to one buffer
-----------------------------------------------------------------------------------------

namespace State

/-- From the first state to the second at most the buffer behind the target was rewritten. -/
structure Rewrites (target : Option (Ref Native.Buffer)) (s t : State) : Prop where
  others : ∀ q, target ≠ some q → t.buffer q = s.buffer q
  frees : ∀ q, (t.buffer q).frees = (s.buffer q).frees
  size
    : (∀ r, target = some r → r.index < s.world.buffers.size)
      → t.world.buffers.size = s.world.buffers.size
  queue : t.world.queue = s.world.queue

variable {s t u : State} {target : Option (Ref Native.Buffer)} {r : Ref Native.Buffer}

theorem Rewrites.of_same (buffers : t.world.buffers = s.world.buffers)
    (queue : t.world.queue = s.world.queue)
    : Rewrites target s t := by
  refine ⟨fun q _ => ?_, fun q => ?_, fun _ => ?_, queue⟩
  · rw [buffer, buffer, buffers]
  · rw [buffer, buffer, buffers]
  · rw [buffers]

theorem Rewrites.trans (first : Rewrites target s t) (second : Rewrites target t u)
    : Rewrites target s u where
  others q other := (second.others q other).trans (first.others q other)
  frees q := (second.frees q).trans (first.frees q)
  size made := by
    have kept := first.size made
    rw [← kept]
    exact second.size fun r same => by
      rw [kept]
      exact made r same
  queue := second.queue.trans first.queue

theorem rewrites_setBuffer {b : Native.Buffer} (frees : b.frees = (s.buffer r).frees)
    : Rewrites (some r) s (s.setBuffer r b) where
  others _ other := s.world.buffers.get_put_of_ne b fun same => other (congrArg some same.symm)
  frees := s.world.buffers.keeps_put frees
  size made := s.world.buffers.size_put b (made r rfl)
  queue := rfl

theorem rewrites_takeWriteFailure (s : State) (r : Ref Native.Buffer)
    : Rewrites (some r) s (s.takeWriteFailure r) :=
  Rewrites.trans (t := { s with thread := { s.thread with failAppend := false } })
    (.of_same rfl rfl) (rewrites_setBuffer rfl)

theorem rewrites_rewritten (s : State) (r : Ref Native.Buffer) (bytes : List UInt8)
    : Rewrites (some r) s ((s.takeWriteFailure r).setContents r bytes) :=
  (rewrites_takeWriteFailure s r).trans (rewrites_setBuffer rfl)

theorem rewrites_writeAt (s : State) (r : Ref Native.Buffer) (bytes : List UInt8) (pos : Nat)
    : Rewrites (some r) s (s.writeAt r bytes pos).2 := by
  unfold writeAt
  dsimp only
  split
  · exact rewrites_takeWriteFailure s r
  · exact rewrites_rewritten s r _

theorem rewrites_cut (s : State) (r : Ref Native.Buffer) (start stop : Nat)
    : Rewrites (some r) s (s.cut r start stop).2 := by
  unfold cut
  dsimp only
  split
  · exact rewrites_takeWriteFailure s r
  · exact rewrites_rewritten s r _

/-- What is reported of a released wrapper is about no buffer. -/
theorem rewrites_raiseNullHandle (s : State) (realm : Realm)
    : Rewrites target s (s.raiseNullHandle realm) := by
  unfold raiseNullHandle raiseKind kindNumber
  dsimp only
  split <;> exact .of_same rfl rfl

end State

namespace Buffer

variable (b : Buffer) (s : State)

theorem rewrites_use {α : Type} {fallback : α} {act : Ref Native.Buffer → State → α × State}
    (acts : ∀ r, State.Rewrites (some r) s (act r s).2)
    : State.Rewrites b.raw s (b.use .data fallback act s).2 := by
  unfold Handle.use
  cases b.raw with
  | none => exact s.rewrites_raiseNullHandle .data
  | some r => exact acts r

end Buffer

/-- An edit rewrites the buffer behind its wrapper, and reads the one behind its source at most. -/
theorem Edit.rewrites_run (e : Edit Buffer) (b : Buffer) (s : State)
    : State.Rewrites b.raw s (e.run b s).2 := by
  have write (bytes : List UInt8) (n pos : Nat) (note : Event) (r : Ref Native.Buffer)
      : State.Rewrites (some r) s
          (if bytes.length < n then (false, s.note note) else s.writeAt r (bytes.take n) pos).2 := by
    split
    · exact .of_same rfl rfl
    · exact s.rewrites_writeAt r _ _
  cases e with
  | append bytes | appendLen bytes n | insert bytes pos | insertLen bytes n pos =>
      exact b.rewrites_use s fun r => write _ _ _ _ r
  | appendByte | appendSlice | insertByte | insertSlice =>
      exact b.rewrites_use s fun r => s.rewrites_writeAt r _ _
  | appendBuffer source =>
      refine b.rewrites_use s fun r => ?_
      unfold Handle.use
      split
      · exact s.rewrites_writeAt r _ _
      · exact s.rewrites_raiseNullHandle .data
  | remove start stop => exact b.rewrites_use s fun r => s.rewrites_cut r start stop

/-- A later change to a buffer, through a wrapper. -/
inductive Buffer.Change
  | edit (target : Buffer) (e : Edit Buffer)
  | reset (target : Buffer)
  | freeContents (target : Buffer)
  | dispose (target : Buffer)

namespace Buffer.Change

def target : Buffer.Change → Buffer
  | edit b _ | reset b | freeContents b | dispose b => b

def run (s : State) : Buffer.Change → State
  | edit b e => (e.run b s).2
  | reset b => b.reset s
  | freeContents b => b.freeContents s
  | dispose b => (b.dispose s).2

theorem others_run {q : Ref Native.Buffer} (c : Buffer.Change) (s : State)
    (other : c.target.raw ≠ some q)
    : (c.run s).buffer q = s.buffer q := by
  cases c with
  | edit b e => exact (e.rewrites_run b s).others q other
  | reset b | freeContents b =>
      have cleared (r : Ref Native.Buffer)
          : State.Rewrites (some r) s (s.setContents r []) :=
        State.rewrites_setBuffer rfl
      exact (b.rewrites_use s cleared).others q other
  | dispose b =>
      obtain ⟨raw, own⟩ := b
      cases raw with
      | none => cases own <;> rfl
      | some r =>
          cases own with
          | false => rfl
          | true => exact s.world.buffers.get_put_of_ne _ fun same => other (congrArg some same.symm)

end Buffer.Change

/-- The state after changes one after the other, each on a thread. -/
def State.changed (s : State) (later : List (Thread × Buffer.Change)) : State :=
  later.foldl (fun s change => change.2.run { s with thread := change.1 }) s

/-- Changes leave every buffer alone that none of them is a change to, by induction on them. -/
theorem State.others_changed {q : Ref Native.Buffer} {later : List (Thread × Buffer.Change)}
    (s : State)
    (others : ∀ change ∈ later, change.2.target.raw ≠ some q)
    : (s.changed later).buffer q = s.buffer q := by
  induction later generalizing s with
  | nil => rfl
  | cons change later ih =>
      obtain ⟨other, others⟩ := List.forall_mem_cons.1 others
      exact (ih _ others).trans (change.2.others_run { s with thread := change.1 } other)

-----------------------------------------------------------------------------------------
-- Ways to make a buffer
-----------------------------------------------------------------------------------------

/-- A way to make a buffer. -/
inductive Making
  | new
  | ofBytes (bytes : List UInt8)
  | ofBytesLen (bytes : List UInt8) (n : Nat)
  | copy (source : Buffer)
  | copyView (source : BufferView)
  /-- Of the bytes at a position in a message. -/
  | readBytes (source : BodyCursor)

namespace Making

/-- The error of a buffer, as one of the bus. -/
def onBus {α : Type} (a : Attempt BufferError α) : Attempt BusError α :=
  (a.1.mapError .buffer, a.2)

def run (s : State) : Making → Attempt BusError Buffer
  | new => onBus (Buffer.new s)
  | ofBytes bytes => onBus (Buffer.ofBytes bytes s)
  | ofBytesLen bytes n => onBus (Buffer.ofBytesLen bytes n s)
  | copy source => onBus (source.copy s)
  | copyView source => onBus (source.toBuffer s)
  | readBytes source => source.readBytes s

/-- The bytes that the new buffer is to have. There are none to be had past the end of the input, and
none from a wrapper without a buffer; a view without one shows no bytes.
-/
def requested (s : State) : Making → Option (List UInt8)
  | new => some []
  | ofBytes bytes => some bytes
  | ofBytesLen bytes n => if n ≤ bytes.length then some (bytes.take n) else none
  | copy source => source.raw.map fun r => (s.buffer r).bytes
  | copyView source => some (source.raw.elim [] fun r => (s.buffer r).bytes)
  | readBytes source =>
      source.raw.map fun r =>
        match s.world.planned.fixedArray with
        | some (some (count, bytes)) => (bytes.getD []).take count.toNat
        | _ => (s.bodyCursor r).bytes

/-- The contents are refused: there are none to be had, or the next write of the thread fails. An empty
buffer asks for no write.
-/
def Refused (s : State) : Making → Prop
  | new => False
  | m => m.requested s = none ∨ s.thread.failAppend = true

/-- If bytes are read, the position is live, and the native side reports a block there: one that was
planned, or its own, whose length it can tell.
-/
def Readable (s : State) : Making → Prop
  | readBytes source =>
      (∃ r, source.raw = some r ∧ (s.bodyCursor r).bytes.length < 0x80000000)
      ∧ ∀ answer,
        s.world.planned.fixedArray = some answer
        → ∃ count bytes, answer = some (count, bytes) ∧ 0 ≤ count
  | _ => True

end Making

/-- What comes of making a buffer, in a state in which certain bytes are asked for, or refused. -/
structure State.Makes (s : State) (requested : Option (List UInt8)) (refused : Prop)
    (out : Attempt BusError Buffer) : Prop where
  /-- The allocation error tells that the allocation failed. -/
  alloc : out.1 = .error (.buffer .alloc) ↔ s.thread.failAlloc = true
  /-- Then nothing was allocated, and a failure that waits for a write waits still. -/
  spared
    : s.thread.failAlloc = true
      → out.2.world.buffers = s.world.buffers ∧ out.2.thread.failAppend = s.thread.failAppend
  /-- The append error tells that the contents were refused. -/
  append : out.1 = .error (.buffer .append) ↔ s.thread.failAlloc = false ∧ refused
  /-- Then the one buffer that was allocated was freed, once. -/
  undone
    : out.1 = .error (.buffer .append)
      → out.2.world.buffers.size = s.world.buffers.size + 1
        ∧ (out.2.buffer ⟨s.world.buffers.size⟩).frees = 1
  /-- There are no other errors. -/
  errors : ∀ e, out.1 = .error e → e = .buffer .alloc ∨ e = .buffer .append
  /-- Without an error there is one more buffer, which is owned, has the bytes asked for and is not
  freed. -/
  made
    : ∀ b, out.1 = .ok b
      → b = { raw := some ⟨s.world.buffers.size⟩, own := true }
        ∧ out.2.world.buffers.size = s.world.buffers.size + 1
        ∧ requested = some (out.2.buffer ⟨s.world.buffers.size⟩).bytes
        ∧ (out.2.buffer ⟨s.world.buffers.size⟩).frees = 0
  /-- The buffers that were there are as they were. -/
  old : ∀ q : Ref Native.Buffer, q.index < s.world.buffers.size → out.2.buffer q = s.buffer q
  /-- No free waits that did not wait before. -/
  queue : out.2.world.queue = s.world.queue

namespace State

variable {s t : State} {requested : Option (List UInt8)} {refused : Prop}

/-- The second state is the first with one more buffer, which is blank. -/
structure Fresh (s t : State) : Prop where
  failAppend : t.thread.failAppend = s.thread.failAppend
  size : t.world.buffers.size = s.world.buffers.size + 1
  buffers : ∀ q, t.buffer q = s.buffer q
  blank : t.buffer ⟨s.world.buffers.size⟩ = {}
  queue : t.world.queue = s.world.queue

/-- A new buffer reads as its reference did before. -/
theorem newBuffer_fresh (free : s.thread.failAlloc = false)
    : ∃ t, s.newBuffer = (some ⟨s.world.buffers.size⟩, t) ∧ s.Fresh t := by
  unfold newBuffer
  rw [free]
  refine ⟨_, rfl, rfl, s.world.buffers.size_alloc {}, ?_, s.world.buffers.get_alloc_self {}, rfl⟩
  exact s.world.buffers.keeps_alloc (f := id) rfl

/-- What is appended to a blank buffer are its contents, unless the next change fails on the thread.
-/
theorem writeEnd_blank {r : Ref Native.Buffer} (blank : s.buffer r = {}) (bytes : List UInt8)
    : (s.writeEnd r bytes).1 = !s.thread.failAppend
      ∧ ((s.writeEnd r bytes).1 = true → ((s.writeEnd r bytes).2.buffer r).bytes = bytes) := by
  have atStart : s.writeEnd r bytes = s.writeAt r bytes 0 := by
    rw [writeEnd, blank]
    rfl
  rw [atStart, writeAt_blank_eq blank]
  cases s.thread.failAppend with
  | true => exact ⟨rfl, fun done => absurd done Bool.false_ne_true⟩
  | false => exact ⟨rfl, fun _ => (s.takeWriteFailure r).bytes_setContents r bytes⟩

/-- A new buffer was filled, and no other was changed: it refused the contents, or has those that were
asked for.
-/
structure Filled (t : State) (r : Ref Native.Buffer) (requested : Option (List UInt8))
    (refused : Prop) (filled : Bool × State) : Prop where
  rewrites : Rewrites (some r) t filled.2
  refuses : filled.1 = false ↔ refused
  contents : filled.1 = true → requested = some (filled.2.buffer r).bytes

/-- In the second state there is one more buffer, which was freed so many times, and those of the first
are as they were.
-/
structure Grown (s t : State) (frees : Nat) : Prop where
  size : t.world.buffers.size = s.world.buffers.size + 1
  frees : (t.buffer ⟨s.world.buffers.size⟩).frees = frees
  old : ∀ q : Ref Native.Buffer, q.index < s.world.buffers.size → t.buffer q = s.buffer q
  queue : t.world.queue = s.world.queue

theorem Fresh.grown {u : State} (fresh : s.Fresh t)
    (rewrites : Rewrites (some ⟨s.world.buffers.size⟩) t u)
    : s.Grown u 0 where
  size := by
    rw [rewrites.size, fresh.size]
    rintro _ ⟨⟩
    rw [fresh.size]
    exact Nat.lt_succ_self _
  frees := by rw [rewrites.frees, fresh.blank]
  old q before := by
    rw [rewrites.others, fresh.buffers]
    rintro ⟨⟩
    exact Nat.lt_irrefl _ before
  queue := rewrites.queue.trans fresh.queue

theorem Grown.free {frees : Nat} (grown : s.Grown t frees)
    : s.Grown (t.free (.buffer ⟨s.world.buffers.size⟩)) (frees + 1) where
  size := by
    rw [← grown.size]
    refine t.world.buffers.size_put _ ?_
    rw [grown.size]
    exact Nat.lt_succ_self _
  frees := by
    rw [← grown.frees]
    exact congrArg Native.Buffer.frees (t.world.buffers.get_put_self _ _)
  old q before := by
    rw [← grown.old q before]
    refine t.world.buffers.get_put_of_ne _ ?_
    rintro rfl
    exact Nat.lt_irrefl _ before
  queue := grown.queue

/-- A buffer that refused its contents is given back before its wrapper ends. -/
theorem makes_settle {filled : Bool × State} (free : s.thread.failAlloc = false)
    (fresh : s.Fresh t) (fills : t.Filled ⟨s.world.buffers.size⟩ requested refused filled)
    : s.Makes requested refused
        (Making.onBus
          (Buffer.settle { raw := some ⟨s.world.buffers.size⟩, own := true } filled)) := by
  have available : s.thread.failAlloc ≠ true := by simp [free]
  obtain ⟨done, u⟩ := filled
  have grown : s.Grown u 0 := fresh.grown fills.rewrites
  cases done with
  | true =>
      exact
        { alloc := ⟨nofun, fun failing => absurd failing available⟩
          spared := fun failing => absurd failing available
          append := ⟨nofun, fun ⟨_, refused⟩ => nomatch fills.refuses.2 refused⟩
          undone := nofun
          errors := nofun
          made := fun b same => by
            cases same
            exact ⟨rfl, grown.size, fills.contents rfl, grown.frees⟩
          old := grown.old
          queue := grown.queue }
  | false =>
      exact
        { alloc := ⟨nofun, fun failing => absurd failing available⟩
          spared := fun failing => absurd failing available
          append := ⟨fun _ => ⟨free, fills.refuses.1 rfl⟩, fun _ => rfl⟩
          undone := fun _ => ⟨grown.free.size, grown.free.frees⟩
          errors := fun e same => by cases same; exact .inr rfl
          made := nofun
          old := grown.free.old
          queue := grown.free.queue }

/-- A buffer that cannot be had is not filled. -/
theorem makes_unavailable (failing : s.thread.failAlloc = true)
    : s.Makes requested refused
        (Making.onBus
          (.error .alloc, note { s with thread.failAlloc := false } .bufferUnavailable)) where
  alloc := ⟨fun _ => failing, fun _ => rfl⟩
  spared _ := ⟨rfl, rfl⟩
  append := ⟨nofun, fun ⟨free, _⟩ => by simp [failing] at free⟩
  undone := nofun
  errors e same := by cases same; exact .inl rfl
  made := nofun
  old _ _ := rfl
  queue := rfl

/-- A buffer that is made and filled comes out as asked for, or is freed. -/
theorem makes_of_filled {fill : Buffer → State → Bool × State}
    (fills
      : ∀ t,
          s.Fresh t
          → t.Filled ⟨s.world.buffers.size⟩ requested refused
              (fill { raw := some ⟨s.world.buffers.size⟩, own := true } t))
    : s.Makes requested refused
        (Making.onBus ((Buffer.new s).andThen fun b t => b.settle (fill b t))) := by
  cases free : s.thread.failAlloc with
  | true =>
      have failed : Buffer.new s
          = (.error .alloc, note { s with thread.failAlloc := false } .bufferUnavailable) := by
        rw [Buffer.new, newBuffer, free]
        rfl
      rw [failed]
      exact makes_unavailable free
  | false =>
      obtain ⟨t, allocated, fresh⟩ := newBuffer_fresh free
      have made : Buffer.new s = (.ok { raw := some ⟨s.world.buffers.size⟩, own := true }, t) := by
        rw [Buffer.new, allocated]
      rw [made, Attempt.andThen_ok]
      exact makes_settle free fresh (fills t fresh)

/-- What comes of making a buffer depends on the buffers, the queue and the failures that wait. -/
theorem Makes.of_same {out : Attempt BusError Buffer} (makes : t.Makes requested refused out)
    (thread : t.thread = s.thread) (buffers : t.world.buffers = s.world.buffers)
    (queue : t.world.queue = s.world.queue)
    : s.Makes requested refused out := by
  obtain ⟨alloc, spared, append, undone, errors, made, old, waits⟩ := makes
  simp only [buffer, thread, buffers, queue] at alloc spared append undone made old waits
  exact ⟨alloc, spared, append, undone, errors, made, old, waits⟩

end State

-----------------------------------------------------------------------------------------
-- Each way to make a buffer
-----------------------------------------------------------------------------------------

namespace Making

variable {s t u : State}

/-- Contents that are there are written to a blank buffer, unless the next write of the thread fails.
-/
theorem filled_writeEnd (fresh : s.Fresh t) (bytes : List UInt8)
    : t.Filled ⟨s.world.buffers.size⟩ (some bytes) (some bytes = none ∨ s.thread.failAppend = true)
        (t.writeEnd ⟨s.world.buffers.size⟩ bytes) := by
  obtain ⟨outcome, written⟩ := State.writeEnd_blank fresh.blank bytes
  refine ⟨t.rewrites_writeAt _ _ _, ?_, fun done => by rw [written done]⟩
  rw [outcome, fresh.failAppend]
  simp

/-- Contents that are not there are refused, and no buffer is touched. -/
theorem filled_nothing {failing : Prop} {requested : Option (List UInt8)}
    (rewrites : State.Rewrites (some ⟨s.world.buffers.size⟩) t u) (absent : requested = none)
    : t.Filled ⟨s.world.buffers.size⟩ requested (requested = none ∨ failing) (false, u) :=
  ⟨rewrites, ⟨fun _ => .inl absent, fun _ => rfl⟩, nofun⟩

variable (s)

theorem makes_new
    : s.Makes (new.requested s) (new.Refused s) (new.run s) := by
  have filled (t : State) (fresh : s.Fresh t)
      : t.Filled ⟨s.world.buffers.size⟩ (some []) False (true, t) :=
    ⟨.of_same rfl rfl, ⟨nofun, False.elim⟩, fun _ => by rw [fresh.blank]⟩
  have same
      : (Buffer.new s).andThen (fun b t => b.settle (true, t)) = Buffer.new s := by
    rcases Buffer.new s with ⟨e | b, t⟩ <;> rfl
  rw [run, ← same]
  exact State.makes_of_filled filled

theorem makes_ofBytesLen (bytes : List UInt8) (n : Nat)
    : s.Makes ((ofBytesLen bytes n).requested s) ((ofBytesLen bytes n).Refused s)
        ((ofBytesLen bytes n).run s) := by
  refine State.makes_of_filled fun t fresh => ?_
  show t.Filled _ _ _
    (if bytes.length < n then (false, t.note (.appendPastEnd n bytes.length))
      else t.writeEnd ⟨s.world.buffers.size⟩ (bytes.take n))
  simp only [Refused]
  by_cases inside : n ≤ bytes.length
  · rw [if_neg (Nat.not_lt.2 inside), requested, if_pos inside]
    exact filled_writeEnd fresh _
  · rw [if_pos (Nat.not_le.1 inside)]
    exact filled_nothing (.of_same rfl rfl) (if_neg inside)

theorem makes_ofBytes (bytes : List UInt8)
    : s.Makes ((ofBytes bytes).requested s) ((ofBytes bytes).Refused s) ((ofBytes bytes).run s) := by
  have made := makes_ofBytesLen s bytes bytes.length
  have same : (ofBytesLen bytes bytes.length).requested s = some bytes := by
    simp [requested]
  simp only [Refused, same] at made
  exact made

theorem makes_copy (source : Buffer)
    : s.Makes ((copy source).requested s) ((copy source).Refused s) ((copy source).run s) := by
  refine State.makes_of_filled fun t fresh => ?_
  show t.Filled _ _ _
    (source.use .data false
      (fun q t => t.writeEnd ⟨s.world.buffers.size⟩ (t.buffer q).bytes) t)
  simp only [Refused, requested]
  unfold Handle.use
  cases source.raw with
  | none => exact filled_nothing (t.rewrites_raiseNullHandle .data) rfl
  | some q =>
      dsimp only
      rw [fresh.buffers]
      exact filled_writeEnd fresh _

theorem makes_copyView (source : BufferView)
    : s.Makes ((copyView source).requested s) ((copyView source).Refused s)
        ((copyView source).run s) := by
  refine State.makes_of_filled fun t fresh => ?_
  show t.Filled _ _ _
    (t.writeEnd ⟨s.world.buffers.size⟩ (source.raw.elim [] fun r => (t.buffer r).bytes))
  simp only [Refused, requested, fresh.buffers]
  exact filled_writeEnd fresh _

variable {s} {r : Ref Native.BodyCursor}

/-- A block that the native side reports is copied like any other bytes. -/
theorem run_readBytes {count : Int} {bytes : Option (List UInt8)}
    (reported : s.readBlock r = (some (count, bytes), t)) (counted : 0 ≤ count)
    : (readBytes ⟨some r⟩).run s = (ofBytes ((bytes.getD []).take count.toNat)).run t := by
  simp only [run, BodyCursor.readBytes, State.live, Attempt.andThen_ok, reported,
    if_neg (Int.not_lt.2 counted), onBus]
  rcases Buffer.ofBytes ((bytes.getD []).take count.toNat) t with ⟨e | b, u⟩ <;> rfl

theorem makes_readBytes {source : BodyCursor} (readable : (readBytes source).Readable s)
    : s.Makes ((readBytes source).requested s) ((readBytes source).Refused s)
        ((readBytes source).run s) := by
  obtain ⟨⟨r, live, short⟩, planned⟩ := readable
  obtain ⟨raw⟩ := source
  obtain rfl := live
  simp only [Refused, requested, Option.map_some]
  cases answer : s.world.planned.fixedArray with
  | none =>
      have reported
          : s.readBlock r
            = (some (((s.bodyCursor r).bytes.length : Int), some (s.bodyCursor r).bytes), s) := by
        simp only [State.readBlock, answer, Int32.toInt_ofNat_of_lt short]
      rw [run_readBytes reported (Int.natCast_nonneg _), Int.toNat_natCast, Option.getD_some,
        List.take_length]
      exact makes_ofBytes s _
  | some planning =>
      obtain ⟨count, bytes, rfl, counted⟩ := planned planning answer
      have reported
          : s.readBlock r = (some (count, bytes), s.plan ({ · with fixedArray := none })) := by
        simp only [State.readBlock, answer]
      rw [run_readBytes reported counted]
      exact (makes_ofBytes (s.plan ({ · with fixedArray := none })) _).of_same rfl rfl rfl

/-- Every way to make a buffer makes it as asked, or tells why not and leaves none behind. -/
theorem makes_run {m : Making} (readable : m.Readable s)
    : s.Makes (m.requested s) (m.Refused s) (m.run s) := by
  cases m with
  | new => exact makes_new s
  | ofBytes bytes => exact makes_ofBytes s bytes
  | ofBytesLen bytes n => exact makes_ofBytesLen s bytes n
  | copy source => exact makes_copy s source
  | copyView source => exact makes_copyView s source
  | readBytes source => exact makes_readBytes readable

end Making

/-- Whatever is done with a disposed wrapper at its end, there is nothing left to free. -/
theorem Buffer.drop_disposed (b : Buffer) (s t : State) : (b.dispose s).1.drop t = t := by
  obtain ⟨raw, own⟩ := b
  cases own <;> rfl

variable {s : State}

/-- **Buffers are made exactly or not at all.** Of every input and source, and whichever failures
wait, a buffer comes out as asked for, or an error that tells why not. A buffer that refused its
contents was freed once, for its wrapper has nothing left to free at its end. The new buffer has
nothing in common with any that was there: changes to others leave it alone, at any time, and changes
to it leave others alone.
-/
theorem Making.buffers_made_exactly (m : Making) (readable : m.Readable s)
    : s.Makes (m.requested s) (m.Refused s) (m.run s)
      ∧ (∀ (b : Buffer) (t u : State), (b.dispose t).1.drop u = u)
      ∧ ∀ (b : Buffer) (t : State) (later : List (Thread × Buffer.Change)),
          (m.run s).1 = .ok b
          → ((∀ change ∈ later, change.2.target.raw ≠ b.raw)
              → ∀ r, b.raw = some r → (t.changed later).buffer r = t.buffer r)
            ∧ ((∀ change ∈ later, change.2.target.raw = b.raw)
              → ∀ q : Ref Native.Buffer,
                  q.index < s.world.buffers.size → (t.changed later).buffer q = t.buffer q) := by
  have makes := makes_run readable
  refine ⟨makes, Buffer.drop_disposed, fun b t later made => ⟨fun others r same => ?_, ?_⟩⟩
  · exact t.others_changed fun change mem => same ▸ others change mem
  · intro own q before
    obtain ⟨rfl, -⟩ := makes.made b made
    refine t.others_changed fun change mem same => ?_
    obtain ⟨⟩ := (own change mem).symm.trans same
    exact Nat.lt_irrefl _ before

/-- A buffer of one byte, and a block of two that is to be read; the next change of a buffer may fail.
-/
def blockState (failing : Bool) : State where
  thread := { failAppend := failing }
  world := { buffers := ⟨[{ bytes := [1] }]⟩, bodyCursors := ⟨[{ bytes := [2, 3] }]⟩ }

/-- The block is copied, and what becomes of the copy is nothing to the buffer before it. Or the block
is refused, and the copy freed.
-/
theorem blockState_buffers_made_exactly
    : let read : Making := .readBytes ⟨some ⟨0⟩⟩
      let made := read.run (blockState false)
      let refused := read.run (blockState true)
      (∀ failing, read.Readable (blockState failing))
      ∧ made.1 = .ok { raw := some ⟨1⟩, own := true }
      ∧ (made.2.buffer ⟨1⟩).bytes = [2, 3]
      ∧ (∀ thread,
          ((made.2.changed [(thread, .dispose { raw := some ⟨1⟩, own := true })]).buffer ⟨0⟩).bytes
            = [1])
      ∧ refused.1 = .error (.buffer .append)
      ∧ (refused.2.buffer ⟨1⟩).frees = 1 := by
  have readable (failing : Bool) : (Making.readBytes ⟨some ⟨0⟩⟩).Readable (blockState failing) :=
    ⟨⟨⟨0⟩, rfl, show 2 < 0x80000000 by decide⟩, nofun⟩
  obtain ⟨makes, -, apart⟩ := Making.buffers_made_exactly _ (readable false)
  obtain ⟨refusing, -, -⟩ := Making.buffers_made_exactly _ (readable true)
  obtain ⟨-, -, bytes, -⟩ := makes.made _ rfl
  refine ⟨readable, rfl, (Option.some.inj bytes).symm, fun thread => ?_, rfl, (refusing.undone rfl).2⟩
  exact congrArg Native.Buffer.bytes
    ((apart _ _ [(thread, .dispose { raw := some ⟨1⟩, own := true })] rfl).2 (by simp; rfl) ⟨0⟩
      Nat.zero_lt_one)

end Custody
