import Custody.Proofs.Delivery.Steps

/-! All that an event can do to tokens: nothing, or one of three things to one token. A registration
takes it, the delegate is put into the table under it, or it is taken out again, and only the last
can let a delegate run.
-/

namespace Custody

namespace TokenDeed

def reserved? : TokenDeed → Option Token
  | reserved t => some t
  | _ => none

def enlisted? : TokenDeed → Option (Token × Delegate)
  | enlisted t d => some (t, d)
  | _ => none

def removed? : TokenDeed → Option Token
  | removed t => some t
  | _ => none

/-- The token that a dispatch found, whether or not its delegate ran. -/
def found? : TokenDeed → Option Token
  | rejected t | invoked t _ _ => some t
  | _ => none

def invoked? : TokenDeed → Option (Token × Delegate)
  | invoked t d _ => some (t, d)
  | _ => none

/-- The token that was taken out of the table. -/
def consumed? : TokenDeed → Option Token
  | removed t | rejected t | invoked t _ _ => some t
  | _ => none

end TokenDeed

def Deed.token? : Deed → Option TokenDeed
  | token deed => some deed
  | _ => none

namespace Switchboard

variable (σ : Switchboard)

/-- What was done to tokens, oldest first. -/
def tokenDeeds : List TokenDeed :=
  σ.told Deed.token?

/-- The tokens that registrations took. -/
def reserved : List Token :=
  σ.tokenDeeds.filterMap TokenDeed.reserved?

/-- The delegates that were put into the table, each under its token. -/
def enlisted : List (Token × Delegate) :=
  σ.tokenDeeds.filterMap TokenDeed.enlisted?

/-- The tokens that registrations gave out. -/
def issued : List Token :=
  σ.enlisted.map (·.1)

/-- The tokens that were unregistered while they were there. -/
def removed : List Token :=
  σ.tokenDeeds.filterMap TokenDeed.removed?

/-- The tokens that dispatches found. -/
def found : List Token :=
  σ.tokenDeeds.filterMap TokenDeed.found?

/-- The delegates that began to run. -/
def invoked : List (Token × Delegate) :=
  σ.tokenDeeds.filterMap TokenDeed.invoked?

/-- The tokens that were taken out of the table. -/
def consumed : List Token :=
  σ.tokenDeeds.filterMap TokenDeed.consumed?

/-- The second switchboard is the first after something that was about no token. -/
structure SameTokens (σ τ : Switchboard) : Prop where
  delegates : τ.delegates = σ.delegates
  deeds : τ.tokenDeeds = σ.tokenDeeds
  reserves : (τ.carried Frame.reserves).Perm (σ.carried Frame.reserves)
  runs : τ.carried Frame.runs ⊆ σ.carried Frame.runs

variable {σ} {ρ τ : Switchboard} {i : Nat} {f : Frame}

theorem SameTokens.refl (σ : Switchboard)
    : σ.SameTokens σ :=
  ⟨rfl, rfl, .refl _, fun _ member => member⟩

theorem SameTokens.trans (first : σ.SameTokens ρ) (second : ρ.SameTokens τ)
    : σ.SameTokens τ where
  delegates := second.delegates.trans first.delegates
  deeds := second.deeds.trans first.deeds
  reserves := second.reserves.trans first.reserves
  runs _ member := first.runs (second.runs member)

/-- What leaves the table, the calls and the record alone. -/
theorem SameTokens.of_same (delegates : τ.delegates = σ.delegates)
    (history : τ.history = σ.history) (calls : τ.calls = σ.calls)
    : σ.SameTokens τ := by
  have deeds : τ.tokenDeeds = σ.tokenDeeds := congrArg (List.filterMap _) history
  have carried (part : Frame → List Token) : τ.carried part = σ.carried part :=
    congrArg (List.flatMap _) calls
  refine ⟨delegates, deeds, .of_eq (carried _), ?_⟩
  rw [carried]
  exact fun _ member => member

theorem tokenDeeds_record (σ : Switchboard) (deeds : List Deed)
    : (σ.record deeds).tokenDeeds = σ.tokenDeeds ++ deeds.filterMap Deed.token? :=
  σ.told_record deeds Deed.token?

theorem sameTokens_record (σ : Switchboard) {deeds : List Deed}
    (none : deeds.filterMap Deed.token? = [])
    : σ.SameTokens (σ.record deeds) := by
  refine ⟨rfl, ?_, .refl _, fun _ member => member⟩
  rw [tokenDeeds_record, none, List.append_nil]

/-- What is recorded of references is no news of tokens. -/
theorem token?_map (refs : List (Ref Native.Message)) {see : Ref Native.Message → Deed}
    (none : ∀ r, (see r).token? = none)
    : (refs.map see).filterMap Deed.token? = [] := by
  rw [List.filterMap_map, List.filterMap_eq_nil_iff]
  exact fun r _ => none r

/-- By induction on the parts. -/
theorem Quiet.sameTokens {gain loss owned : List (Ref Native.Message)}
    (quiet : Quiet i gain loss owned σ τ)
    : σ.SameTokens τ := by
  induction quiet with
  | refl σ => exact .refl σ
  | trans _ _ first second => exact first.trans second
  | congr _ _ same => exact same
  | state | reports | wrappers => exact .of_same rfl rfl rfl
  | answer σ k a =>
      exact
        ⟨delegates_answer σ i k a, told_answer σ i k a fun _ _ => rfl,
          carried_answer σ i Frame.reserves k a Frame.reserves_hear,
          (carried_answer σ i Frame.runs k a Frame.runs_hear).subset⟩
  | handOut σ refs => exact sameTokens_record σ (token?_map refs fun _ => rfl)
  | takeOver σ refs => exact sameTokens_record σ (token?_map refs fun _ => rfl)
  | pop here reserves =>
      have popped := carried_pop Frame.reserves here
      rw [reserves] at popped
      exact
        ⟨rfl, rfl, popped.symm, fun t member =>
          (carried_pop Frame.runs here).mem_iff.2 (List.mem_append_right _ member)⟩
  | replace here reserves runs _ =>
      exact
        ⟨rfl, rfl, carried_replace_same Frame.reserves here reserves,
          (carried_replace_same Frame.runs here runs).subset⟩

/-- A registration took the next token. -/
structure Reserves (σ τ : Switchboard) : Prop where
  delegates : τ.delegates = σ.delegates.reserve.2
  deeds : τ.tokenDeeds = σ.tokenDeeds ++ [.reserved σ.delegates.next]
  reserves : (τ.carried Frame.reserves).Perm (σ.delegates.next :: σ.carried Frame.reserves)
  runs : τ.carried Frame.runs ⊆ σ.carried Frame.runs

/-- A delegate was put into the table under a token that was taken for it. -/
structure Enlists (t : Token) (d : Delegate) (σ τ : Switchboard) : Prop where
  delegates : τ.delegates = σ.delegates.enlist t d
  deeds : τ.tokenDeeds = σ.tokenDeeds ++ [.enlisted t d]
  reserves : (σ.carried Frame.reserves).Perm (t :: τ.carried Frame.reserves)
  runs : τ.carried Frame.runs ⊆ σ.carried Frame.runs

/-- A token that was there was taken out of the table, and its delegate may have begun to run. -/
structure Consumes (t : Token) (d : Delegate) (deed : TokenDeed) (σ τ : Switchboard)
    : Prop where
  there : (t, d) ∈ σ.delegates.entries
  how : deed = .removed t ∨ deed = .rejected t ∨ ∃ seat, deed = .invoked t d seat
  delegates : τ.delegates = σ.delegates.erase t
  deeds : τ.tokenDeeds = σ.tokenDeeds ++ [deed]
  reserves : (τ.carried Frame.reserves).Perm (σ.carried Frame.reserves)
  runs : τ.carried Frame.runs ⊆ t :: σ.carried Frame.runs

/-- All that an event can do to tokens. -/
inductive Turn (σ τ : Switchboard) : Prop
  | same (same : σ.SameTokens τ)
  | reserves (taken : σ.Reserves τ)
  | enlists (t : Token) (d : Delegate) (put : Enlists t d σ τ)
  | consumes (t : Token) (d : Delegate) (deed : TokenDeed) (out : Consumes t d deed σ τ)

theorem Happens.turn (happens : Happens i σ τ)
    : σ.Turn τ := by
  cases happens with
  | reserve k d post =>
      exact .reserves ⟨rfl, tokenDeeds_record _ _, .refl _, List.Subset.refl _⟩
  | enlist here =>
      exact .enlists _ _
        ⟨rfl, tokenDeeds_record _ _, carried_pop Frame.reserves here,
          (carried_pop Frame.runs here).symm.subset⟩
  | post here =>
      exact .enlists _ _
        ⟨rfl, tokenDeeds_record _ _, carried_pop Frame.reserves here,
          (carried_pop Frame.runs here).symm.subset⟩
  | takeOut there how =>
      exact .consumes _ _ _
        ⟨there, how.imp_right .inl, rfl, tokenDeeds_record _ _, .refl _,
          List.subset_cons_self _ _⟩
  | invoke there k m c =>
      exact .consumes _ _ _
        ⟨there, .inr (.inr ⟨_, rfl⟩), rfl, tokenDeeds_record _ _, .refl _, List.Subset.refl _⟩
  | @send k t d post call s here _ =>
      have popped : σ.SameTokens (σ.pop i) := (Quiet.pop here rfl).sameTokens
      have noted : σ.SameTokens ((σ.pop i).putState i (s.note .sent)) :=
        popped.trans (.of_same rfl rfl rfl)
      exact .same (noted.trans (sameTokens_record _ rfl))
  | @make _ _ _ method m s _ =>
      have made : (m.raw.toList.map (Deed.made · method)).filterMap Deed.token? = [] :=
        token?_map _ fun _ => rfl
      refine .same (.trans (ρ := { σ.putState i s with wrappers := σ.wrappers ++ [m] }) ?_ ?_)
      · exact .of_same rfl rfl rfl
      · exact sameTokens_record _ made

theorem Turn.deeds (turn : σ.Turn τ)
    : σ.tokenDeeds <+: τ.tokenDeeds := by
  rcases turn with same | taken | ⟨t, d, put⟩ | ⟨t, d, deed, out⟩
  · exact ⟨[], (List.append_nil _).trans same.deeds.symm⟩
  · exact ⟨_, taken.deeds.symm⟩
  · exact ⟨_, put.deeds.symm⟩
  · exact ⟨_, out.deeds.symm⟩

/-- What every turn keeps, a step keeps. -/
theorem Step.keeps_turn {P : Switchboard → Prop} {owned : List (Ref Native.Message)}
    (turn : ∀ {σ τ}, σ.Turn τ → P σ → P τ) (step : Step i owned σ τ) (holds : P σ)
    : P τ :=
  step.keeps (fun quiet => turn (.same quiet.sameTokens)) (fun happens => turn happens.turn) holds

/-- What every turn keeps, whole runs keep. -/
theorem keeps_turns {P : Switchboard → Prop} (turn : ∀ {σ τ}, σ.Turn τ → P σ → P τ)
    (holds : P σ) (es : List (Nat × Move))
    : P (σ.run es) :=
  keeps_run (fun quiet => turn (.same quiet.sameTokens)) (fun happens => turn happens.turn) holds es

/-- What was done to tokens stays on record. -/
theorem tokenDeeds_run (σ : Switchboard) (es : List (Nat × Move))
    : σ.tokenDeeds <+: (σ.run es).tokenDeeds :=
  keeps_turns (P := fun τ => σ.tokenDeeds <+: τ.tokenDeeds)
    (fun turn sofar => sofar.trans turn.deeds) (List.prefix_refl _) es

end Switchboard

end Custody
