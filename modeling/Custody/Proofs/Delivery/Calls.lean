import Custody.Proofs.Delivery.Switchboard

/-! What steps do to the calls that are not finished, and to the record: lists of what the calls
carry, and of what the record tells, in which the order of threads plays no part.
-/

namespace Custody

namespace Frame

/-- The token whose delegate is not in the table yet. -/
def reserves : Frame → List Token
  | registering _ t _ _ => [t]
  | _ => []

/-- The token whose delegate runs. -/
def runs : Frame → List Token
  | running _ t _ _ | ended _ t _ _ => [t]
  | _ => []

/-- The delegate that waits for the answer to a message that can go out. -/
def posts : Frame → List (Token × Delegate)
  | posting _ t d _ => [(t, d)]
  | _ => []

/-- The reference that the reply of a running delegate answers for. -/
def owes : Frame → List (Ref Native.Message)
  | running _ _ _ seat | ended _ _ _ seat => seat.reply.owes
  | _ => []

variable (a : Except BusError Answer) (f : Frame)

/-- An answer leaves alone what a delegate keeps when it learns, and when its acts end. -/
theorem hear_keeps {β : Type} {part : Frame → β}
    (learns : ∀ k t d seat b, part (running k t d (seat.learn b)) = part (running k t d seat))
    (ends : ∀ k t d seat e b, part (ended k t e (seat.learn b)) = part (running k t d seat))
    : part (f.hear a) = part f := by
  cases f with
  | running k t d seat =>
      cases a with
      | ok b => exact learns k t d seat b
      | error e => exact ends k t d seat _ _
  | _ => rfl

theorem reserves_hear
    : (f.hear a).reserves = f.reserves :=
  hear_keeps a f (fun _ _ _ _ _ => rfl) fun _ _ _ _ _ _ => rfl

theorem runs_hear
    : (f.hear a).runs = f.runs :=
  hear_keeps a f (fun _ _ _ _ _ => rfl) fun _ _ _ _ _ _ => rfl

theorem posts_hear
    : (f.hear a).posts = f.posts :=
  hear_keeps a f (fun _ _ _ _ _ => rfl) fun _ _ _ _ _ _ => rfl

theorem owes_hear
    : (f.hear a).owes = f.owes :=
  hear_keeps a f (fun _ _ _ _ _ => rfl) fun _ _ _ _ _ _ => rfl

end Frame

namespace Switchboard

variable {β : Type} (σ : Switchboard) (i : Nat)

/-- What the unfinished calls carry of one kind. -/
def carried (part : Frame → List β) : List β :=
  σ.calls.flatMap fun c => part c.2

/-- What the record tells of one kind, oldest first. -/
def told (see : Deed → Option β) : List β :=
  σ.history.filterMap see

/-- What is recorded in a row is recorded at once. -/
theorem record_append (deeds more : List Deed)
    : σ.record (deeds ++ more) = (σ.record deeds).record more := by
  simp [record]

theorem told_record (deeds : List Deed) (see : Deed → Option β)
    : (σ.record deeds).told see = σ.told see ++ deeds.filterMap see :=
  List.filterMap_append

@[simp]
theorem top_push (f : Frame)
    : (σ.push i f).top i = some f := by
  simp [top, push]

@[simp]
theorem pop_push (f : Frame)
    : (σ.push i f).pop i = σ := by
  simp [pop, push]

@[simp]
theorem replace_push (f g : Frame)
    : (σ.push i f).replace i g = σ.push i g := by
  rw [replace, pop_push]

@[simp]
theorem top_replace (f : Frame)
    : (σ.replace i f).top i = some f :=
  top_push _ i f

variable {σ i} {f : Frame}

/-- The innermost call of a thread stands among all calls. -/
theorem mem_of_top (here : σ.top i = some f)
    : (i, f) ∈ σ.calls := by
  obtain ⟨⟨j, g⟩, found, rfl⟩ := Option.map_eq_some_iff.1 here
  have same : j = i := by simpa using List.find?_some found
  subst same
  exact List.mem_of_find?_eq_some found

/-- Without its innermost call a thread has the others, by list induction. -/
theorem perm_pop (here : σ.top i = some f)
    : σ.calls.Perm ((i, f) :: (σ.pop i).calls) := by
  unfold top at here
  unfold pop
  generalize σ.calls = calls at here
  induction calls with
  | nil => simp at here
  | cons c rest ih =>
      obtain ⟨j, g⟩ := c
      by_cases same : j = i
      · subst same
        obtain rfl : g = f := by simpa using here
        simp
      · have other : (j == i) = false := by simpa using same
        simp only [List.find?_cons, other] at here
        simp only [List.eraseP_cons, other]
        exact ((ih here).cons (j, g)).trans (.swap _ _ _)

variable (part : Frame → List β)

variable {part} in
theorem mem_carried {x : β}
    : x ∈ σ.carried part ↔ ∃ j f, (j, f) ∈ σ.calls ∧ x ∈ part f := by
  simp [carried]

theorem carried_push (σ : Switchboard) (i : Nat) (f : Frame)
    : (σ.push i f).carried part = part f ++ σ.carried part :=
  List.flatMap_cons

theorem carried_pop (here : σ.top i = some f)
    : (σ.carried part).Perm (part f ++ (σ.pop i).carried part) :=
  (perm_pop here).flatMap_right _

/-- A call that goes on as another brings what it carries in place of what the call carried. -/
theorem carried_replace (here : σ.top i = some f) (g : Frame)
    : (part f ++ (σ.replace i g).carried part).Perm (part g ++ σ.carried part) := by
  rw [replace, carried_push, ← List.append_assoc]
  refine (List.perm_append_comm.append_right _).trans ?_
  rw [List.append_assoc]
  exact (carried_pop part here).symm.append_left _

/-- A call that goes on as one that carries the same. -/
theorem carried_replace_same (here : σ.top i = some f) {g : Frame} (same : part g = part f)
    : ((σ.replace i g).carried part).Perm (σ.carried part) := by
  have both := carried_replace part here g
  rw [same] at both
  exact (List.perm_append_left_iff _).1 both

variable (σ i) (k : Asker) (a : Except BusError Answer)

/-- An answer is heard by the innermost call, is on record, or has nobody to hear it. -/
theorem answer_cases
    : (∃ f b, σ.top i = some f ∧ σ.answer i k a = σ.replace i (f.hear b))
      ∨ σ.answer i k a = σ
      ∨ ∃ b, σ.answer i k a = σ.record [.answered i b] := by
  unfold answer
  generalize (if k.native then (.ok .done : Except BusError Answer) else a) = b
  dsimp only
  split
  · split
    · next f here => exact .inl ⟨f, b, here, rfl⟩
    · exact .inr (.inl rfl)
  · exact .inr (.inr ⟨b, rfl⟩)

@[simp]
theorem world_answer
    : (σ.answer i k a).world = σ.world := by
  rcases σ.answer_cases i k a with ⟨f, b, _, eq⟩ | eq | ⟨b, eq⟩ <;> rw [eq] <;> rfl

@[simp]
theorem delegates_answer
    : (σ.answer i k a).delegates = σ.delegates := by
  rcases σ.answer_cases i k a with ⟨f, b, _, eq⟩ | eq | ⟨b, eq⟩ <;> rw [eq] <;> rfl

@[simp]
theorem wrappers_answer
    : (σ.answer i k a).wrappers = σ.wrappers := by
  rcases σ.answer_cases i k a with ⟨f, b, _, eq⟩ | eq | ⟨b, eq⟩ <;> rw [eq] <;> rfl

/-- The delegate that asked learns the answer. -/
theorem answer_inText {a : Except BusError Answer} (here : σ.top i = some f)
    : σ.answer i { inText := true } a = σ.replace i (f.hear a) := by
  simp [answer, here]

/-- An answer is no news to what overlooks answers. -/
theorem told_answer {see : Deed → Option β} (blind : ∀ i a, see (.answered i a) = none)
    : (σ.answer i k a).told see = σ.told see := by
  rcases σ.answer_cases i k a with ⟨f, b, _, eq⟩ | eq | ⟨b, eq⟩ <;> rw [eq]
  · rfl
  · simp [told, record, blind]

/-- The call that hears an answer carries what it carried. -/
theorem carried_answer (hears : ∀ a f, part (Frame.hear a f) = part f)
    : ((σ.answer i k a).carried part).Perm (σ.carried part) := by
  rcases σ.answer_cases i k a with ⟨f, b, here, eq⟩ | eq | ⟨b, eq⟩ <;> rw [eq]
  · exact carried_replace_same part here (hears b f)
  · exact .refl _

end Switchboard

end Custody
