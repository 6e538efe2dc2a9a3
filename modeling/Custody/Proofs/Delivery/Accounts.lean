import Custody.Proofs.Delivery.AtMostOnce

/-! The accounts of the table. All that comes into it and all that is taken out is on record, and a
delegate that runs was taken out first. So no more delegates begin to run, of any sort, than waited
at first or were put into the table since.
-/

namespace Custody

/-- A token that is erased was there at least once. -/
theorem Registry.countP_erase_le {r : Registry} {t : Token} {d : Delegate}
    (there : (t, d) ∈ r.entries) (P : Token → Bool)
    : ((r.erase t).entries.map (·.1)).countP P + [t].countP P
      ≤ (r.entries.map (·.1)).countP P := by
  have others : (r.erase t).entries.map (·.1) = (r.entries.map (·.1)).filter (· != t) := by
    rw [List.filter_map]
    rfl
  have out : [t].Sublist ((r.entries.map (·.1)).filter fun u => !(u != t)) :=
    List.singleton_sublist.2 (List.mem_filter.2 ⟨List.mem_map_of_mem there, by simp⟩)
  rw [others, List.countP_eq_countP_filter_add (r.entries.map (·.1)) P (· != t)]
  exact Nat.add_le_add_left (out.countP_le) _

/-- The delegates that ran were among those that were taken out. -/
theorem TokenDeed.invoked_sublist_consumed (deeds : List TokenDeed)
    : ((deeds.filterMap invoked?).map (·.1)).Sublist (deeds.filterMap consumed?) := by
  induction deeds with
  | nil => exact .slnil
  | cons deed rest ih =>
      cases deed with
      | reserved | enlisted => exact ih
      | removed t | rejected t => exact ih.cons t
      | invoked t d seat => exact ih.cons_cons t

namespace Switchboard

/-- What was done to tokens between two switchboards. The delegates that wait in the end, and those
that ran, waited at first or were put in. Among the tokens that `P` picks, those that wait in the end
and those that were taken out are no more than those that waited at first and those that were put in.
-/
structure Accounts (σ : Switchboard) (more : List TokenDeed) (τ : Switchboard) : Prop where
  deeds : τ.tokenDeeds = σ.tokenDeeds ++ more
  entries
    : τ.delegates.entries ⊆ σ.delegates.entries ++ more.filterMap TokenDeed.enlisted?
  invoked
    : more.filterMap TokenDeed.invoked?
      ⊆ σ.delegates.entries ++ more.filterMap TokenDeed.enlisted?
  balance (P : Token → Bool)
    : (τ.delegates.entries.map (·.1)).countP P + (more.filterMap TokenDeed.consumed?).countP P
      ≤ (σ.delegates.entries.map (·.1)).countP P
        + ((more.filterMap TokenDeed.enlisted?).map (·.1)).countP P

variable {σ ρ τ : Switchboard} {i : Nat} {owned : List (Ref Native.Message)}
  {more later : List TokenDeed}

theorem SameTokens.accounts (same : σ.SameTokens τ)
    : σ.Accounts [] τ := by
  refine ⟨same.deeds.trans (List.append_nil _).symm, ?_, List.nil_subset _, fun P => ?_⟩
  · rw [same.delegates]
    exact List.subset_append_left _ _
  · rw [same.delegates]
    exact Nat.le_refl _

theorem Accounts.trans (first : σ.Accounts more ρ) (second : ρ.Accounts later τ)
    : σ.Accounts (more ++ later) τ := by
  have carried
      : ρ.delegates.entries ++ later.filterMap TokenDeed.enlisted?
        ⊆ σ.delegates.entries ++ (more ++ later).filterMap TokenDeed.enlisted? := by
    rw [List.filterMap_append, ← List.append_assoc]
    exact List.append_subset.2
      ⟨List.subset_append_of_subset_left _ first.entries, List.subset_append_right _ _⟩
  refine ⟨?_, List.Subset.trans second.entries carried, ?_, fun P => ?_⟩
  · rw [second.deeds, first.deeds, List.append_assoc]
  · rw [List.filterMap_append]
    refine List.append_subset.2 ⟨?_, List.Subset.trans second.invoked carried⟩
    rw [List.filterMap_append, ← List.append_assoc]
    exact List.Subset.trans first.invoked (List.subset_append_left _ _)
  · have before := first.balance P
    have after := second.balance P
    simp only [List.filterMap_append, List.map_append, List.countP_append]
    omega

/-- Every event is in the accounts. -/
theorem Turn.accounts (turn : σ.Turn τ)
    : ∃ more, σ.Accounts more τ := by
  rcases turn with same | taken | ⟨t, d, put⟩ | ⟨t, d, deed, out⟩
  · exact ⟨[], same.accounts⟩
  · refine ⟨_, taken.deeds, ?_, List.nil_subset _, fun P => ?_⟩
    · rw [taken.delegates]
      exact List.subset_append_left _ _
    · rw [taken.delegates]
      exact Nat.le_refl _
  · have kept := List.filter_sublist (p := (·.1 != t)) (l := σ.delegates.entries)
    refine ⟨_, put.deeds, ?_, List.nil_subset _, fun P => ?_⟩
    · rw [put.delegates]
      exact List.append_subset.2
        ⟨List.subset_append_of_subset_left _ kept.subset, List.subset_append_right _ _⟩
    · have fewer := (kept.map (·.1)).countP_le (p := P)
      rw [put.delegates]
      simp only [Registry.enlist, Registry.erase, List.map_append, List.countP_append]
      exact Nat.add_le_add_right fewer _
  · refine ⟨_, out.deeds, ?_, ?_, fun P => ?_⟩
    · rw [out.delegates]
      exact fun e member => List.mem_append_left _ (List.mem_of_mem_filter member)
    · rcases out.how with rfl | rfl | ⟨seat, rfl⟩
      · exact List.nil_subset _
      · exact List.nil_subset _
      · exact List.cons_subset.2 ⟨List.mem_append_left _ out.there, List.nil_subset _⟩
    · have erased := Registry.countP_erase_le out.there P
      rw [out.delegates]
      rcases out.how with rfl | rfl | ⟨seat, rfl⟩ <;> exact erased

/-- The accounts go on with every turn. -/
theorem Turn.accounts_since (turn : ρ.Turn τ) (sofar : ∃ more, σ.Accounts more ρ)
    : ∃ more, σ.Accounts more τ :=
  let ⟨_, before⟩ := sofar
  let ⟨_, after⟩ := turn.accounts
  ⟨_, before.trans after⟩

theorem Step.accounts (step : Step i owned σ τ)
    : ∃ more, σ.Accounts more τ :=
  step.keeps_turn Turn.accounts_since ⟨[], (SameTokens.refl σ).accounts⟩

/-- Whatever threads do, the accounts of the table are kept. -/
theorem accounts_run (σ : Switchboard) (es : List (Nat × Move))
    : ∃ more, σ.Accounts more (σ.run es) :=
  keeps_turns Turn.accounts_since ⟨[], (SameTokens.refl σ).accounts⟩ es

/-- Of any sort, no more delegates run than waited at first or were put into the table since. -/
theorem Accounts.countP_invoked_le (accounts : σ.Accounts more τ) (P : Token → Bool)
    : ((more.filterMap TokenDeed.invoked?).map (·.1)).countP P
      ≤ (σ.delegates.entries.map (·.1)).countP P
        + ((more.filterMap TokenDeed.enlisted?).map (·.1)).countP P := by
  have balance := accounts.balance P
  have taken := (TokenDeed.invoked_sublist_consumed more).countP_le (p := P)
  omega

/-- No more delegates run than waited at first or were put into the table since. -/
theorem Accounts.length_invoked_le (accounts : σ.Accounts more τ)
    : (more.filterMap TokenDeed.invoked?).length
      ≤ σ.delegates.size + (more.filterMap TokenDeed.enlisted?).length := by
  have bound := accounts.countP_invoked_le fun _ => true
  simp only [List.countP_true, List.length_map] at bound
  exact bound

end Switchboard

end Custody
