import Custody.Proofs.RoundTrip.Blobs

/-! What a read that fails leaves. An array that cannot be entered stays, and so does a value that is not
shown as one of a basic type. A value that is shown as one, but does not fit it, is passed before that is
found out: the read fails, and the value is gone.
-/

namespace Custody

open State

/-- The first value is shown as one of a basic type, and does not fit it. -/
def Body.misfits (b : Body) : Bool :=
  b.shownType.any ArgumentType.isBasic && b.slot?.isNone

/-- What readers are told by one read after another. Positions that reads make are used like others. -/
def State.answers (s : State) : List (BodyCursor × ReadAct) → List Told
  | [] => []
  | (c, act) :: later => act.tell c s :: State.answers (act.run c s).2 later

variable {s t : State} {q : Ref Native.BodyCursor} {e : BusError}

-----------------------------------------------------------------------------------------
-- The value before a reader
-----------------------------------------------------------------------------------------

/-- What fills the slot of its type is read. -/
theorem View.basic_of_filled {v : View} {k : ArgumentType} (shown : v.rest.shownType = some k)
    (basic : k.isBasic = true) (filled : v.rest.slot?.isSome = true)
    : ∃ a, v.basic = .ok a := by
  have head := Body.code?_of_shownType shown
  cases next : v.rest with
  | empty | container => simp [next, Body.slot?] at filled
  | scalar code value rest =>
      obtain rfl : code = k.code := by simpa [next, Body.code?] using head
      rw [next, Body.slot?] at filled
      obtain ⟨k', a, same, -, found⟩ := Scalar.basic_of_slot? filled
      obtain rfl : k = k' := by
        have named := congrArg ArgumentType.ofCode? same
        simpa using named
      refine ⟨a, ?_⟩
      rw [View.basic, shown]
      simp only [basic, Bool.not_true, Bool.false_eq_true, if_false, next, Body.slot?, found]

/-- A read that fails passes a value exactly if that does not fit its type. -/
theorem View.passes_of_failed {v : View} (failed : v.basic = .error e)
    : v.passes .basic = v.rest.misfits := by
  rw [View.passes, Body.misfits]
  cases shown : v.rest.shownType with
  | none => rfl
  | some k =>
      rw [Option.any_some]
      cases basic : k.isBasic with
      | false => rfl
      | true =>
          cases filled : v.rest.slot? with
          | none => rfl
          | some slot =>
              obtain ⟨a, found⟩ := View.basic_of_filled shown basic (filled ▸ rfl)
              rw [failed] at found
              cases found

theorem Body.signature_eq_append_tail (b : Body)
    : b.signature = b.firstSignature ++ b.tail.signature := by
  cases b <;> rfl

theorem Body.toList_firstSignature_ne_nil {b : Body} (some : b ≠ .empty)
    : b.firstSignature.toList ≠ [] := by
  intro none
  cases b with
  | empty => exact some rfl
  | scalar code value rest =>
      have head := value.head?_signature code ""
      rw [String.append_empty, ← firstSignature_scalar code value rest, none] at head
      cases head
  | container code items rest =>
      have head := head?_boxSignature code items.firstSignature items.signature ""
      rw [String.append_empty, ← firstSignature_container code items rest, none] at head
      cases head

/-- A signature that shows a type is stored whole, and so is the rest of it. -/
theorem Body.fits_of_shownType {b : Body} (shown : b.shownType.isSome = true)
    : ZeroTerminated.fits b.signature = true ∧ ZeroTerminated.fits b.tail.signature = true := by
  have whole : ZeroTerminated.fits b.signature = true := by
    cases fit : ZeroTerminated.fits b.signature with
    | true => rfl
    | false => simp [shownType_eq, fit] at shown
  have parts := whole
  rw [b.signature_eq_append_tail, ZeroTerminated.fits_append, Bool.and_eq_true] at parts
  exact ⟨whole, parts.2⟩

/-- A value of which the type is shown is missed in the signature once it is passed. -/
theorem View.tell_signature_ne_of_tail {v : View} (shown : v.rest.shownType.isSome = true)
    : View.tell { v with rest := v.rest.tail } .signature ≠ v.tell .signature := by
  obtain ⟨whole, tail⟩ := Body.fits_of_shownType shown
  have split := v.rest.signature_eq_append_tail
  have some : v.rest ≠ .empty := by
    intro none
    rw [none] at shown
    cases shown
  have first := Body.toList_firstSignature_ne_nil some
  have longer : v.rest.signature ≠ v.rest.tail.signature := by
    intro same
    have letters := congrArg String.toList (split.symm.trans same)
    rw [String.toList_append, List.append_left_eq_self] at letters
    exact first letters
  have letters : v.rest.signature ≠ "" := by
    intro none
    have letters := congrArg String.toList (split.symm.trans none)
    rw [String.toList_append] at letters
    exact first (List.append_eq_nil_iff.1 letters).1
  intro same
  rw [View.tell, View.tell, ZeroTerminated.kept_of_fits whole, ZeroTerminated.kept_of_fits tail] at same
  simp only [if_neg letters, Told.signature.injEq] at same
  split at same
  · cases same
  · exact longer (Option.some.inj same).symm

-----------------------------------------------------------------------------------------
-- The reader
-----------------------------------------------------------------------------------------

namespace BodyCursor

/-- A failed read leaves the state as it was, or the reader after the value that does not fit. -/
theorem state_of_failed_read (unplanned : s.Unplanned)
    (failed : BodyCursor.read ⟨some q⟩ s = (.error e, t))
    : t = if (s.view q).rest.misfits then s.moveTo q (s.view q).rest.tail else s := by
  rw [read_view unplanned] at failed
  obtain ⟨refused, rfl⟩ := Prod.mk.inj failed
  rw [View.passes_of_failed refused]

/-- An array that cannot be entered is not passed. -/
theorem state_of_failed_readArray (unplanned : s.Unplanned) (old : q.index < s.cursorCount)
    (failed : BodyCursor.readArray ⟨some q⟩ s = (.error e, t))
    : t = s := by
  rw [readArray_view unplanned old] at failed
  split at failed
  · simp at failed
  · exact (Prod.mk.inj failed).2.symm

theorem tell_signature_view (unplanned : s.Unplanned)
    : ReadAct.signature.tell ⟨some q⟩ s = (s.view q).tell .signature := by
  rw [ReadAct.tell, signature_shown unplanned rfl]
  rfl

/-- Past a value that does not fit, the reader is told another signature. -/
theorem tell_signature_ne_of_misfits (unplanned : s.Unplanned)
    (misfits : (s.view q).rest.misfits = true)
    : ReadAct.signature.tell ⟨some q⟩ (s.moveTo q (s.view q).rest.tail)
      ≠ ReadAct.signature.tell ⟨some q⟩ s := by
  have unplannedNow : (s.moveTo q (s.view q).rest.tail).Unplanned := unplanned
  have shown : (s.view q).rest.shownType.isSome = true := by
    cases shown : (s.view q).rest.shownType with
    | none => simp [Body.misfits, shown] at misfits
    | some k => rfl
  rw [tell_signature_view unplanned, tell_signature_view unplannedNow, view_moveTo_self]
  exact View.tell_signature_ne_of_tail shown

/-- A failed read of an array is as if it had not been made. A failed read of a basic value is so exactly
if the value before the reader is not one that is shown as of a basic type and does not fit it; such a
value is passed, and missed in the signature.
-/
theorem failed_read_moves_iff_misfits (unplanned : s.Unplanned) (old : q.index < s.cursorCount)
    : (∀ e t, BodyCursor.readArray ⟨some q⟩ s = (.error e, t) → t = s)
      ∧ ∀ e t,
          BodyCursor.read ⟨some q⟩ s = (.error e, t)
          → ((∀ later, t.answers later = s.answers later) ↔ (s.view q).rest.misfits = false)
            ∧ ((s.view q).rest.misfits = false → t = s)
            ∧ ((s.view q).rest.misfits = true
              → t = s.moveTo q (s.view q).rest.tail
                ∧ (BodyCursor.signature ⟨some q⟩ t).1 ≠ (BodyCursor.signature ⟨some q⟩ s).1) := by
  refine ⟨fun e t failed => state_of_failed_readArray unplanned old failed, ?_⟩
  intro e t failed
  have left := state_of_failed_read unplanned failed
  cases misfits : (s.view q).rest.misfits with
  | false =>
      obtain rfl : t = s := by simpa [misfits] using left
      exact ⟨iff_of_true (fun _ => rfl) rfl, fun _ => rfl, nofun⟩
  | true =>
      obtain rfl : t = s.moveTo q (s.view q).rest.tail := by simpa [misfits] using left
      have missed := tell_signature_ne_of_misfits unplanned misfits
      refine ⟨iff_of_false ?_ Bool.noConfusion, nofun, fun _ => ⟨rfl, ?_⟩⟩
      · intro same
        exact missed (List.cons.inj (same [(⟨some q⟩, .signature)])).1
      · intro same
        exact missed (congrArg Told.signature same)

/-- A reader that came past the integer of a message, to the block after it. -/
def blobPassed : State :=
  (BodyCursor.read ⟨some ⟨2⟩⟩ (blobMessage.cursor blobSent).2).2

/-- That reader entered the array of the block, where another one stands now. -/
def blobEntered : State :=
  (BodyCursor.readArray ⟨some ⟨2⟩⟩ blobPassed).2

theorem blobEntered_view
    : blobEntered.view ⟨3⟩ = ⟨.one 'y' (.bytes [1, 2]), []⟩ :=
  rfl

/-- The block does not fit the type that it is shown as. -/
theorem blobEntered_fails
    : ∃ t, BodyCursor.read ⟨some ⟨3⟩⟩ blobEntered = (.error (.read 'y'), t) :=
  ⟨_, Prod.ext rfl rfl⟩

/-- The read fails, and with it the block is gone. -/
theorem blobEntered_misses_block
    : blobEntered.Unplanned
      ∧ ∃ t,
          BodyCursor.read ⟨some ⟨3⟩⟩ blobEntered = (.error (.read 'y'), t)
          ∧ (t.view ⟨3⟩).rest = .empty
          ∧ (BodyCursor.signature ⟨some ⟨3⟩⟩ t).1 ≠ (BodyCursor.signature ⟨some ⟨3⟩⟩ blobEntered).1 := by
  have unplanned : blobEntered.Unplanned := rfl
  obtain ⟨t, failed⟩ := blobEntered_fails
  obtain ⟨-, moves⟩ := failed_read_moves_iff_misfits unplanned
    (show (⟨3⟩ : Ref Native.BodyCursor).index < blobEntered.cursorCount by decide)
  obtain ⟨-, -, passed⟩ := moves _ t failed
  obtain ⟨rfl, missed⟩ := passed rfl
  refine ⟨unplanned, _, failed, ?_, missed⟩
  rw [view_moveTo_self, blobEntered_view]
  rfl

/-- So a failed read is not always as if it had not been made. -/
theorem blobEntered_felt
    : ¬ ∀ (s t : State) (q : Ref Native.BodyCursor) (e : BusError),
        s.Unplanned
        → q.index < s.cursorCount
        → BodyCursor.read ⟨some q⟩ s = (.error e, t)
        → ∀ later, t.answers later = s.answers later := by
  intro unfelt
  have unplanned : blobEntered.Unplanned := rfl
  obtain ⟨t, failed⟩ := blobEntered_fails
  obtain rfl := state_of_failed_read unplanned failed
  have same := unfelt _ _ ⟨3⟩ _ unplanned (by decide) failed [(⟨some ⟨3⟩⟩, .signature)]
  exact tell_signature_ne_of_misfits unplanned rfl (List.cons.inj same).1

end BodyCursor

end Custody
