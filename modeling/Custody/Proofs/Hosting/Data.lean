import Custody.Proofs.Hosting.Proceeding
import Custody.Proofs.Ownership.System

/-! What operations on buffers and cursors free: what the caller disposes of, and the buffer behind a
wrapper that could not be made because its contents were refused.
-/

namespace Custody

open State

-----------------------------------------------------------------------------------------
-- Making
-----------------------------------------------------------------------------------------

/-- From the first state to the second the caller disposes of what is listed. Where contents are
refused, a new buffer is freed as well, for which nobody asked.
-/
structure State.Frees (disposed : List NativeHandle) (refused : Prop) (s t : State) : Prop where
  asked : ¬ refused → Proceeds disposed s t
  stray : refused → ∃ r, ¬ s.world.Has (.buffer r) ∧ Proceeds (disposed ++ [.buffer r]) s t

namespace State.Frees

variable {s t u : State} {refused : Prop} {disposed : List NativeHandle}

/-- Whatever is freed, the operation proceeds. -/
theorem proceeds (frees : Frees disposed refused s t)
    : ∃ freed, Proceeds freed s t := by
  by_cases how : refused
  · obtain ⟨r, -, went⟩ := frees.stray how
    exact ⟨_, went⟩
  · exact ⟨_, frees.asked how⟩

theorem of_not (proceeds : Proceeds disposed s t) (kept : ¬ refused)
    : Frees disposed refused s t :=
  ⟨fun _ => proceeds, fun how => absurd how kept⟩

theorem congr {refused' : Prop} (frees : Frees disposed refused s t) (same : refused ↔ refused')
    : Frees disposed refused' s t where
  asked kept := frees.asked (kept ∘ same.1)
  stray how := frees.stray (same.2 how)

theorem after (frees : Frees disposed refused t u) (first : Proceeds [] s t)
    : Frees disposed refused s u where
  asked how := (frees.asked how).after first
  stray how := by
    obtain ⟨r, new, went⟩ := frees.stray how
    exact ⟨r, fun old => new (first.has _ old), went.after first⟩

/-- An attempt that goes on is refused in its second part only. -/
theorem andThen {ε α β : Type} {e : ε} {a : Attempt ε α} {next : α → State → Attempt ε β}
    (first : Proceeds [] s a.2) (other : a.1 ≠ .error e)
    (second : ∀ x t, Frees [] ((next x t).1 = .error e) t (next x t).2)
    : Frees [] ((a.andThen next).1 = .error e) s (a.andThen next).2 := by
  obtain ⟨f | x, t⟩ := a
  · exact .of_not first fun same => other (congrArg Except.error (Except.error.inj same))
  · exact (second x t).after first

/-- An attempt that goes on to something that frees nothing is refused in its first part only. -/
theorem andThen_proceeds {ε α β : Type} {e : ε} {a : Attempt ε α}
    {next : α → State → Attempt ε β} (first : Frees [] (a.1 = .error e) s a.2)
    (second : ∀ x t, Proceeds [] t (next x t).2) (other : ∀ x t, (next x t).1 ≠ .error e)
    : Frees [] ((a.andThen next).1 = .error e) s (a.andThen next).2 := by
  obtain ⟨f | x, t⟩ := a
  · exact first.congr ⟨fun same => congrArg Except.error (Except.error.inj same),
      fun same => congrArg Except.error (Except.error.inj same)⟩
  · exact .of_not ((first.asked nofun).before (second x t)) (other x t)

end State.Frees

namespace Buffer

/-- A new wrapper owns a new buffer; without memory there is neither. -/
theorem new_cases (s : State)
    : (∃ r, (new s).1 = .ok { raw := some r, own := true } ∧ ¬ s.world.Has (.buffer r))
      ∨ (new s).1 = .error .alloc := by
  unfold new
  split
  · next r t allocated => exact .inl ⟨r, rfl, (newBuffer_some allocated).1⟩
  · exact .inr rfl

/-- A new buffer that is filled by an edit, or freed at once. -/
theorem frees_build (e : State → Edit Buffer) (s : State)
    : let made := (new s).andThen fun b t => b.settle ((e t).run b t)
      Frees [] (made.1 = .error .append) s made.2 := by
  have allocated := (tame_new s).proceeds
  have cases := new_cases s
  generalize new s = made at allocated cases
  obtain ⟨answer, t⟩ := made
  rcases cases with ⟨r, rfl, new⟩ | rfl
  · have filled := ((e t).tame_run { raw := some r, own := true } t).proceeds.after allocated
    dsimp only [Attempt.andThen]
    unfold settle
    split
    · exact .of_not filled nofun
    · exact ⟨fun how => absurd rfl how, fun _ => ⟨r, new, (proceeds_free _ _).after filled⟩⟩
  · exact .of_not allocated nofun

theorem frees_ofBytesLen (bytes : List UInt8) (n : Nat) (s : State)
    : Frees [] ((ofBytesLen bytes n s).1 = .error .append) s (ofBytesLen bytes n s).2 :=
  frees_build (fun _ => .appendLen bytes n) s

theorem frees_ofBytes (bytes : List UInt8) (s : State)
    : Frees [] ((ofBytes bytes s).1 = .error .append) s (ofBytes bytes s).2 :=
  frees_ofBytesLen bytes bytes.length s

theorem frees_copy (source : Buffer) (s : State)
    : Frees [] ((source.copy s).1 = .error .append) s (source.copy s).2 :=
  frees_build (fun _ => .appendBuffer source) s

end Buffer

theorem BufferView.frees_toBuffer (v : BufferView) (s : State)
    : Frees [] ((v.toBuffer s).1 = .error .append) s (v.toBuffer s).2 :=
  Buffer.frees_build (fun t => .appendSlice (v.slice t)) s

-----------------------------------------------------------------------------------------
-- Operations
-----------------------------------------------------------------------------------------

/-- What an act on a wrapper frees in so many words. -/
def Wrapper.Act.disposes (w : Wrapper) : Act → List NativeHandle
  | dispose => w.owed.toList
  | _ => []

theorem Wrapper.Act.proceeds_run (a : Act) (w : Wrapper) (s : State)
    : Proceeds (a.disposes w) s (a.run w s).2 := by
  cases a with
  | setOwn | release => exact .refl s
  | dispose => cases w <;> exact proceeds_dispose _ s
  | drop => cases w <;> exact proceeds_schedulePointer s _
  | collect =>
      cases w with
      | cursor k c =>
          have taken := (Cursor.tame_take (c.remaining s + 1) c s).proceeds
          exact (proceeds_schedulePointer _ _).after taken
      | buffer | token => exact .refl s
  | useBuffer u =>
      cases w with
      | buffer b => exact (u.tame_run b s).proceeds
      | cursor | token => exact .refl s
  | useCursor u =>
      cases w with
      | cursor k c => exact (u.tame_run c s).proceeds
      | buffer | token => exact .refl s

namespace Operation

/-- What an operation frees in so many words. -/
def disposes (ws : List Wrapper) : Operation → List NativeHandle
  | act place a => (ws[place]?).elim [] a.disposes
  | _ => []

/-- The operation makes a buffer, and its contents are refused. -/
def Refused (s : State) : Operation → Prop
  | bufferOfBytes bytes n => (Buffer.ofBytesLen bytes n s).1 = .error .append
  | copyBuffer source => (source.copy s).1 = .error .append
  | copyView v => (v.toBuffer s).1 = .error .append
  | _ => False

theorem state_keepBuffer (ws : List Wrapper) (made : Attempt BufferError Buffer)
    : (keepBuffer ws made).2 = made.2 := by
  obtain ⟨e | b, s⟩ := made <;> rfl

theorem state_keepLeft (ws : List Wrapper) (place : Nat) (left : Option Wrapper × State)
    : (keepLeft ws place left).2 = left.2 := by
  obtain ⟨_ | w, s⟩ := left <;> rfl

/-- The operation moves its thread onto the main loop, or away from it. -/
def SetsMainLoop : Operation → Prop
  | setMainLoop _ => True
  | _ => False

/-- One case for each operation. -/
theorem frees_run (op : Operation) (ws : List Wrapper) (s : State) (stays : ¬ op.SetsMainLoop)
    : Frees (op.disposes ws) (op.Refused s) s (op.run ws s).2 := by
  cases op with
  | nativeBuffer => exact .of_not (Tame.newBuffer s).proceeds id
  | nativeCursor elements =>
      exact .of_not ((s.spares_newCursor elements).proceeds rfl rfl rfl id) id
  | newBuffer =>
      dsimp only [run]
      rw [state_keepBuffer]
      exact .of_not (Buffer.tame_new s).proceeds id
  | bufferOfBytes bytes n =>
      dsimp only [run]
      rw [state_keepBuffer]
      exact Buffer.frees_ofBytesLen bytes n s
  | copyBuffer source =>
      dsimp only [run]
      rw [state_keepBuffer]
      exact source.frees_copy s
  | copyView v =>
      dsimp only [run]
      rw [state_keepBuffer]
      exact v.frees_toBuffer s
  | act place a =>
      refine .of_not ?_ id
      dsimp only [run, disposes]
      cases ws[place]? with
      | none => exact .refl s
      | some w =>
          dsimp only
          rw [state_keepLeft]
          exact a.proceeds_run w s
  | flush | flushTask => exact .of_not (proceeds_flush s) id
  | setMainLoop on => exact absurd trivial stays
  | adoptBuffer | adoptCursor | adoptToken => exact .of_not (.refl s) id
  | failNextAlloc | failNextWrite => exact .of_not (.of_same rfl rfl rfl rfl rfl rfl) id
  | failNextWriteTo r => exact .of_not (Tame.proceeds (.setBuffer rfl)) id

end Operation

end Custody
