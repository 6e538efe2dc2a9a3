import Custody.BufferView

/-! Buffers as lists of bytes. A byte list stands for a native buffer: its bytes, and whether its next
change is going to fail. Every edit is one change, which replaces a stretch of the list by other bytes.
-/

namespace Custody

-----------------------------------------------------------------------------------------
-- Edits
-----------------------------------------------------------------------------------------

/-- An edit of a buffer; `β` names the buffer that another one's contents come from. -/
inductive Edit (β : Type)
  | append (bytes : List UInt8)
  | appendLen (bytes : List UInt8) (n : Nat)
  | appendByte (byte : UInt8)
  | appendSlice (slice : Slice)
  | appendBuffer (source : β)
  | insert (bytes : List UInt8) (pos : Nat)
  | insertLen (bytes : List UInt8) (n pos : Nat)
  | insertByte (byte : UInt8) (pos : Nat)
  | insertSlice (slice : Slice) (pos : Nat)
  | remove (start stop : Nat)
deriving DecidableEq

namespace Edit

/-- The edit with another name for the source. -/
def map {β γ : Type} (f : β → γ) : Edit β → Edit γ
  | append bytes => .append bytes
  | appendLen bytes n => .appendLen bytes n
  | appendByte byte => .appendByte byte
  | appendSlice slice => .appendSlice slice
  | appendBuffer source => .appendBuffer (f source)
  | insert bytes pos => .insert bytes pos
  | insertLen bytes n pos => .insertLen bytes n pos
  | insertByte byte pos => .insertByte byte pos
  | insertSlice slice pos => .insertSlice slice pos
  | remove start stop => .remove start stop

theorem map_map {β γ δ : Type} (f : β → γ) (g : γ → δ) (e : Edit β)
    : (e.map f).map g = e.map (g ∘ f) := by
  cases e <;> rfl

/-- Edits a buffer through its wrapper. -/
def run (e : Edit Buffer) (b : Buffer) : State → Bool × State :=
  match e with
  | append bytes => b.append bytes
  | appendLen bytes n => b.appendLen bytes n
  | appendByte byte => b.appendByte byte
  | appendSlice slice => b.appendSlice slice
  | appendBuffer source => b.appendBuffer source
  | insert bytes pos => b.insert bytes pos
  | insertLen bytes n pos => b.insertLen bytes n pos
  | insertByte byte pos => b.insertByte byte pos
  | insertSlice slice pos => b.insertSlice slice pos
  | remove start stop => b.remove start stop

end Edit

/-- Bytes that take the place of those from `start` up to, and not with, `stop`. -/
structure Change where
  start : Nat
  stop : Nat
  bytes : List UInt8

namespace Change

/-- There is such a stretch among so many bytes. -/
def Fits (c : Change) (length : Nat) : Prop :=
  c.start ≤ c.stop ∧ c.stop ≤ length

instance (c : Change) (length : Nat) : Decidable (c.Fits length) :=
  inferInstanceAs (Decidable (_ ∧ _))

def apply (c : Change) (bytes : List UInt8) : List UInt8 :=
  bytes.take c.start ++ c.bytes ++ bytes.drop c.stop

end Change

/-- The change that an edit makes to so many bytes; none if it takes more than its input has, or has no
source. The source is given by its contents.
-/
def Edit.change (length : Nat) : Edit (Option (List UInt8)) → Option Change
  | append bytes => some ⟨length, length, bytes⟩
  | appendLen bytes n => if n ≤ bytes.length then some ⟨length, length, bytes.take n⟩ else none
  | appendByte byte => some ⟨length, length, [byte]⟩
  | appendSlice slice => some ⟨length, length, slice.bytes⟩
  | appendBuffer source => source.map (⟨length, length, ·⟩)
  | insert bytes pos => some ⟨pos, pos, bytes⟩
  | insertLen bytes n pos => if n ≤ bytes.length then some ⟨pos, pos, bytes.take n⟩ else none
  | insertByte byte pos => some ⟨pos, pos, [byte]⟩
  | insertSlice slice pos => some ⟨pos, pos, slice.bytes⟩
  | remove start stop => some ⟨start, stop, []⟩

-----------------------------------------------------------------------------------------
-- Byte lists
-----------------------------------------------------------------------------------------

/-- The bytes of a buffer, and whether its next change fails. -/
structure ByteList where
  bytes : List UInt8 := []
  failNext : Bool := false
deriving DecidableEq

/-- The byte lists as a thread finds them: how many there are, what is in them, and whether the next
making and the next change of any of them fails on this thread.
-/
@[ext]
structure ByteLists where
  made : Nat := 0
  byteList : Ref Native.Buffer → ByteList := fun _ => {}
  failMake : Bool := false
  failChange : Bool := false

namespace ByteLists

variable (p : ByteLists) (r : Ref Native.Buffer)

/-- The bytes of a byte list, if one is named. -/
def bytes? : Option (Ref Native.Buffer) → Option (List UInt8) :=
  Option.map fun r => (p.byteList r).bytes

def put (new : ByteList) : ByteLists :=
  { p with byteList := fun q => if q = r then new else p.byteList q }

/-- Replaces the bytes of a byte list. -/
def write (bytes : List UInt8) : ByteLists :=
  p.put r { p.byteList r with bytes }

/-- Uses up the failures that wait for a change of a byte list. -/
def takeFailures : ByteLists :=
  { p.put r { p.byteList r with failNext := false } with failChange := false }

/-- A change is refused: a failure waits for the thread or for the byte list, or that has no such stretch.
-/
def Refuses (c : Change) : Prop :=
  p.failChange = true ∨ (p.byteList r).failNext = true ∨ ¬ c.Fits (p.byteList r).bytes.length

instance (c : Change) : Decidable (p.Refuses r c) :=
  inferInstanceAs (Decidable (_ ∨ _))

/-- Makes a change. The failures that wait are used up in any case. -/
def change (c : Change) : Bool × ByteLists :=
  if p.Refuses r c then (false, p.takeFailures r)
  else (true, (p.takeFailures r).write r (c.apply (p.byteList r).bytes))

/-- Edits the byte list that is named, if one is. -/
def edit (name : Option (Ref Native.Buffer)) (e : Edit (Option (Ref Native.Buffer)))
    : Bool × ByteLists :=
  match name with
  | none => (false, p)
  | some r =>
      match (e.map p.bytes?).change (p.byteList r).bytes.length with
      | none => (false, p)
      | some c => p.change r c

theorem made_change (c : Change)
    : (p.change r c).2.made = p.made := by
  unfold change
  split <;> rfl

/-- No edit makes a byte list. -/
theorem made_edit (name : Option (Ref Native.Buffer)) (e : Edit (Option (Ref Native.Buffer)))
    : (p.edit name e).2.made = p.made := by
  cases name with
  | none => rfl
  | some r =>
      unfold edit
      dsimp only
      split
      · rfl
      · exact p.made_change r _

/-- Clears the byte list that is named, if one is. -/
def clear (name : Option (Ref Native.Buffer)) : ByteLists :=
  name.elim p fun r => p.write r []

/-- Makes the next change of the byte list that is named fail, if one is. -/
def failNextChange (name : Option (Ref Native.Buffer)) : ByteLists :=
  name.elim p fun r => p.put r { p.byteList r with failNext := true }

/-- Makes a byte list, unless a failure waits, which is used up. -/
def make : Option (Ref Native.Buffer) × ByteLists :=
  if p.failMake then (none, { p with failMake := false })
  else (some ⟨p.made⟩, { p with made := p.made + 1 })

/-- A new byte list is empty, as those that were never made are. -/
theorem byteList_make
    : p.make.2.byteList = p.byteList := by
  unfold make
  split <;> rfl

/-- Makes a byte list for a wrapper. -/
def new : Except BufferError (Ref Native.Buffer) × ByteLists :=
  (p.make.1.elim (.error .alloc) .ok, p.make.2)

/-- Makes a byte list and edits it. One whose edit fails is nobody's. -/
def build (e : Edit (Option (Ref Native.Buffer)))
    : Except BufferError (Ref Native.Buffer) × ByteLists :=
  match p.make with
  | (none, p) => (.error .alloc, p)
  | (some r, p) =>
      match p.edit (some r) e with
      | (true, p) => (.ok r, p)
      | (false, p) => (.error .append, p)

theorem made_le_make
    : p.made ≤ p.make.2.made ∧ ∀ r, p.make.1 = some r → r.index < p.make.2.made := by
  unfold make
  split
  · exact ⟨Nat.le_refl _, nofun⟩
  · refine ⟨Nat.le_succ _, ?_⟩
    rintro _ ⟨⟩
    exact Nat.lt_succ_self _

theorem made_le_new
    : p.made ≤ p.new.2.made ∧ ∀ r, p.new.1 = .ok r → r.index < p.new.2.made := by
  obtain ⟨more, named⟩ := p.made_le_make
  refine ⟨more, fun r made => named r ?_⟩
  unfold new at made
  cases taken : p.make.1 with
  | none =>
      rw [taken] at made
      contradiction
  | some q =>
      rw [taken] at made
      cases made
      rfl

theorem made_le_build (e : Edit (Option (Ref Native.Buffer)))
    : p.made ≤ (p.build e).2.made ∧ ∀ r, (p.build e).1 = .ok r → r.index < (p.build e).2.made := by
  obtain ⟨more, named⟩ := p.made_le_make
  unfold build
  split
  · next q refused =>
      rw [refused] at more
      exact ⟨more, nofun⟩
  · next r q taken =>
      rw [taken] at more named
      have still := q.made_edit (some r) e
      have has : r.index < q.made := named r rfl
      split
      · next edited =>
          rw [edited] at still
          refine ⟨Nat.le_trans more (Nat.le_of_eq still.symm), ?_⟩
          rintro _ ⟨⟩
          exact Nat.lt_of_lt_of_eq has still.symm
      · next refused =>
          rw [refused] at still
          exact ⟨Nat.le_trans more (Nat.le_of_eq still.symm), nofun⟩

end ByteLists

-----------------------------------------------------------------------------------------
-- Questions
-----------------------------------------------------------------------------------------

/-- What can be asked of a buffer. -/
inductive Question
  | toBytes
  | length
  | isEmpty
  | slice
deriving DecidableEq

/-- What an operation on buffers answers. -/
inductive Reply
  | done
  | flag (value : Bool)
  | count (value : Nat)
  | bytes (value : Option (List UInt8))
  | pointer (raw : Option (Ref Native.Buffer))
  /-- Whether a buffer was made, or why not. -/
  | outcome (error : Option BufferError)
deriving DecidableEq

namespace Question

/-- Asks a wrapper. -/
def ask (q : Question) (b : Buffer) (s : State) : Reply × State :=
  match q with
  | toBytes => (.bytes (b.toBytes? s).1, (b.toBytes? s).2)
  | length => (.count (b.length s).1, (b.length s).2)
  | isEmpty => (.flag (b.isEmpty s).1, (b.isEmpty s).2)
  | slice => (.bytes (some (b.slice s).1.bytes), (b.slice s).2)

/-- Asks a view. -/
def look (q : Question) (v : BufferView) (s : State) : Reply :=
  match q with
  | toBytes => .bytes (v.toBytes? s)
  | length => .count (v.length s)
  | isEmpty => .flag (v.isEmpty s)
  | slice => .bytes (some (v.slice s).bytes)

/-- The answer for the bytes of a byte list, or for none. -/
def answer (q : Question) (bytes : Option (List UInt8)) : Reply :=
  match q with
  | toBytes => .bytes bytes
  | length => .count (bytes.getD []).length
  | isEmpty => .flag (bytes.getD []).isEmpty
  | slice => .bytes (some (bytes.getD []))

end Question

end Custody
