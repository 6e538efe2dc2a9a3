import Custody.BufferView

/-! Buffers and the bus do not meet: what is done to buffers leaves the messages, the positions in
their bodies and the planned answers as they are.
-/

namespace Custody

/-- No failure waits for the operations of the thread on buffers. -/
def Thread.Calm (t : Thread) : Prop :=
  t.failAlloc = false ∧ t.failAppend = false

/-- Two states that show the same to every operation on messages and positions in their bodies. -/
structure State.SameBus (s t : State) : Prop where
  calm : s.thread.Calm → t.thread.Calm
  planned : t.world.planned = s.world.planned
  messages : t.world.messages = s.world.messages
  bodyCursors : t.world.bodyCursors = s.world.bodyCursors

namespace State

variable {s t u : State}

theorem SameBus.refl (s : State)
    : s.SameBus s :=
  ⟨id, rfl, rfl, rfl⟩

theorem SameBus.trans (first : s.SameBus t) (second : t.SameBus u)
    : s.SameBus u where
  calm := second.calm ∘ first.calm
  planned := second.planned.trans first.planned
  messages := second.messages.trans first.messages
  bodyCursors := second.bodyCursors.trans first.bodyCursors

theorem sameBus_newBuffer (s : State)
    : s.SameBus s.newBuffer.2 := by
  unfold newBuffer
  split
  · exact ⟨fun calm => ⟨rfl, calm.2⟩, rfl, rfl, rfl⟩
  · exact ⟨id, rfl, rfl, rfl⟩

theorem sameBus_writeAt (s : State) (r : Ref Native.Buffer) (bytes : List UInt8) (pos : Nat)
    : s.SameBus (s.writeAt r bytes pos).2 := by
  have noFailure (calm : s.thread.Calm) : Thread.Calm { s.thread with failAppend := false } :=
    ⟨calm.1, rfl⟩
  unfold writeAt
  dsimp only
  split <;> exact ⟨noFailure, rfl, rfl, rfl⟩

theorem sameBus_kindNumber (s : State) (kind : Ref LazyKind)
    : s.SameBus (s.kindNumber kind).2 := by
  unfold kindNumber
  split
  · exact .refl s
  · exact ⟨id, rfl, rfl, rfl⟩

theorem sameBus_raiseNullHandle (s : State) (realm : Realm)
    : s.SameBus (s.raiseNullHandle realm) := by
  have numbered := (s.note (.usedAfterRelease realm)).sameBus_kindNumber realm.nullHandleKind
  exact ⟨numbered.calm, numbered.planned, numbered.messages, numbered.bodyCursors⟩

end State

namespace Buffer

/-- A buffer is freed without any message being touched. -/
theorem sameBus_dispose (b : Buffer) (s : State)
    : s.SameBus (b.dispose s).2 := by
  unfold Handle.dispose Handle.owed
  cases b.own with
  | false => exact .refl s
  | true =>
      cases b.raw with
      | none => exact .refl s
      | some r => exact ⟨id, rfl, rfl, rfl⟩

theorem sameBus_use {β : Type} (b : Buffer) (fallback : β)
    {act : Ref Native.Buffer → State → β × State} (s : State)
    (keeps : ∀ r, s.SameBus (act r s).2)
    : s.SameBus (b.use .data fallback act s).2 := by
  unfold Handle.use
  cases b.raw with
  | none => exact State.sameBus_raiseNullHandle s .data
  | some r => exact keeps r

theorem sameBus_slice (b : Buffer) (s : State)
    : s.SameBus (b.slice s).2 := by
  apply sameBus_use
  intro r
  exact .refl s

theorem sameBus_appendLen (b : Buffer) (bytes : List UInt8) (n : Nat) (s : State)
    : s.SameBus (b.appendLen bytes n s).2 := by
  apply sameBus_use
  intro r
  split
  · exact ⟨id, rfl, rfl, rfl⟩
  · exact State.sameBus_writeAt s r _ _

theorem sameBus_new (s : State)
    : s.SameBus (new s).2 := by
  have allocated := s.sameBus_newBuffer
  unfold new
  split
  · next made =>
      rw [made] at allocated
      exact allocated
  · next refused =>
      rw [refused] at allocated
      exact allocated.trans ⟨id, rfl, rfl, rfl⟩

theorem sameBus_settle (b : Buffer) {s : State} {filled : Bool × State}
    (keeps : s.SameBus filled.2)
    : s.SameBus (b.settle filled).2 := by
  unfold settle
  split
  · exact keeps
  · exact keeps.trans (sameBus_dispose b filled.2)

theorem sameBus_ofBytesLen (bytes : List UInt8) (n : Nat) (s : State)
    : s.SameBus (ofBytesLen bytes n s).2 := by
  have made := sameBus_new s
  unfold ofBytesLen Attempt.andThen
  split
  · next b t eq =>
      rw [eq] at made
      exact sameBus_settle b (made.trans (sameBus_appendLen b bytes n t))
  · next eq =>
      rw [eq] at made
      exact made

theorem sameBus_ofBytes (bytes : List UInt8) (s : State)
    : s.SameBus (ofBytes bytes s).2 :=
  sameBus_ofBytesLen bytes bytes.length s

end Buffer

end Custody
