import Mathlib.Data.List.Nodup
import Custody.Dispatch.Steps
import Custody.Proofs.Delivery.Answers

/-! Whatever the order of steps, a token that was given out is taken out of the table at most once,
so its delegate runs at most once: tokens are told apart as long as they do not run out, a delegate
leaves the table before it runs, and no delegate comes back to the table under an old token.
-/

namespace Custody

theorem Registry.perm_erase {r : Registry} {t : Token} {d : Delegate}
    (distinct : (r.entries.map (·.1)).Nodup) (there : (t, d) ∈ r.entries)
    : (r.entries.map (·.1)).Perm (t :: (r.erase t).entries.map (·.1)) := by
  have others : (r.erase t).entries.map (·.1) = (r.entries.map (·.1)).erase t := by
    rw [distinct.erase_eq_filter, List.filter_map]
    rfl
  rw [others]
  exact List.perm_cons_erase (List.mem_map_of_mem there)

namespace TokenDeed

/-- A token is taken out by an unregistration or by a dispatch. -/
theorem count_consumed (deeds : List TokenDeed) (t : Token)
    : (deeds.filterMap consumed?).count t
      = (deeds.filterMap removed?).count t + (deeds.filterMap found?).count t := by
  induction deeds with
  | nil => rfl
  | cons deed rest ih =>
      cases deed
        <;> simp only [List.filterMap_cons, consumed?, removed?, found?, List.count_cons, ih]
        <;> omega

/-- A delegate runs only where a dispatch found its token. -/
theorem count_invoked_le (deeds : List TokenDeed) (t : Token)
    : ((deeds.filterMap invoked?).map (·.1)).count t ≤ (deeds.filterMap found?).count t := by
  induction deeds with
  | nil => exact Nat.le_refl _
  | cons deed rest ih =>
      cases deed <;>
        simp only [List.filterMap_cons, invoked?, found?, List.map_cons, List.count_cons] <;> omega

end TokenDeed

namespace Switchboard

variable {σ τ : Switchboard} {i : Nat} {t : Token}

theorem view_append {β : Type} {deed : TokenDeed} (deeds : τ.tokenDeeds = σ.tokenDeeds ++ [deed])
    (see : TokenDeed → Option β)
    : τ.tokenDeeds.filterMap see = σ.tokenDeeds.filterMap see ++ (see deed).toList := by
  rw [deeds, List.filterMap_append]
  cases eq : see deed <;> simp [eq]

-----------------------------------------------------------------------------------------
-- The order of tokens
-----------------------------------------------------------------------------------------

/-- Registrations did not use up all tokens. -/
def Few (σ : Switchboard) : Prop :=
  σ.reserved.length < UInt64.size - 1

/-- What holds of tokens at any time. They are taken in the order of numbers, and each is given out,
or its registration is not finished. Those that were given out wait or were taken out, unless
tokens have run out.
-/
structure Orderly (σ : Switchboard) : Prop where
  reserved : σ.reserved = (List.range' 1 σ.reserved.length).map UInt64.ofNat
  next : σ.delegates.next = UInt64.ofNat (1 + σ.reserved.length)
  held : σ.reserved.Perm (σ.issued ++ σ.carried Frame.reserves)
  runs : σ.carried Frame.runs ⊆ σ.consumed
  entries : σ.delegates.entries ⊆ σ.enlisted
  invoked : σ.invoked ⊆ σ.enlisted
  waiting : σ.Few → σ.issued.Perm (σ.delegates.entries.map (·.1) ++ σ.consumed)

theorem orderly_start (settings : Settings) (threads : Nat → Thread)
    : (start settings threads).Orderly :=
  ⟨rfl, rfl, .refl _, List.Subset.refl _, List.Subset.refl _, List.Subset.refl _, fun _ => .refl _⟩

/-- As long as tokens do not run out, each has the number of its registration. -/
theorem Few.toNat_ofNat (few : σ.Few) {n : Nat} (inside : n ∈ List.range' 1 σ.reserved.length)
    : (UInt64.ofNat n).toNat = n := by
  have bound : σ.reserved.length < UInt64.size - 1 := few
  rw [List.mem_range'_1] at inside
  exact UInt64.toNat_ofNat_of_lt' (by omega)

theorem Orderly.nodup_reserved (orderly : σ.Orderly) (few : σ.Few)
    : σ.reserved.Nodup := by
  rw [orderly.reserved]
  refine List.Nodup.map_on (fun m low n high same => ?_) List.nodup_range'
  rw [← few.toNat_ofNat low, same, few.toNat_ofNat high]

theorem Orderly.zero_not_mem_reserved (orderly : σ.Orderly) (few : σ.Few)
    : 0 ∉ σ.reserved := by
  intro member
  rw [orderly.reserved] at member
  obtain ⟨n, inside, zero⟩ := List.mem_map.1 member
  have same := few.toNat_ofNat inside
  rw [zero] at same
  have first : 1 ≤ n := (List.mem_range'_1.1 inside).1
  rw [← same] at first
  exact absurd first (by decide)

/-- A token that was given out, and is not being taken for another registration, is given out once.
-/
theorem Orderly.nodup_issued (orderly : σ.Orderly) (few : σ.Few)
    : (σ.issued ++ σ.carried Frame.reserves).Nodup :=
  orderly.held.nodup_iff.1 (orderly.nodup_reserved few)

theorem Orderly.waiting_issued (orderly : σ.Orderly)
    : σ.delegates.entries.map (·.1) ⊆ σ.issued :=
  List.map_subset _ orderly.entries

-----------------------------------------------------------------------------------------
-- Events
-----------------------------------------------------------------------------------------

theorem Orderly.same (orderly : σ.Orderly) (same : σ.SameTokens τ)
    : τ.Orderly := by
  have view {β : Type} (see : TokenDeed → Option β)
      : τ.tokenDeeds.filterMap see = σ.tokenDeeds.filterMap see := by
    rw [same.deeds]
  have reserved : τ.reserved = σ.reserved := view _
  have enlisted : τ.enlisted = σ.enlisted := view _
  have issued : τ.issued = σ.issued := congrArg (List.map _) enlisted
  have consumed : τ.consumed = σ.consumed := view _
  have invoked : τ.invoked = σ.invoked := view _
  refine ⟨?_, ?_, ?_, ?_, ?_, ?_, ?_⟩
  · rw [reserved]
    exact orderly.reserved
  · rw [same.delegates, reserved]
    exact orderly.next
  · rw [reserved, issued]
    exact orderly.held.trans (same.reserves.symm.append_left _)
  · rw [consumed]
    exact List.Subset.trans same.runs orderly.runs
  · rw [same.delegates, enlisted]
    exact orderly.entries
  · rw [invoked, enlisted]
    exact orderly.invoked
  · rw [Few, reserved, issued, same.delegates, consumed]
    exact orderly.waiting

theorem Orderly.reserves (orderly : σ.Orderly) (taken : σ.Reserves τ)
    : τ.Orderly := by
  have reserved : τ.reserved = σ.reserved ++ [σ.delegates.next] := view_append taken.deeds _
  have enlisted : τ.enlisted = σ.enlisted ++ [] := view_append taken.deeds _
  have consumed : τ.consumed = σ.consumed ++ [] := view_append taken.deeds _
  have invoked : τ.invoked = σ.invoked ++ [] := view_append taken.deeds _
  rw [List.append_nil] at enlisted consumed invoked
  have issued : τ.issued = σ.issued := congrArg (List.map _) enlisted
  have entries : τ.delegates.entries = σ.delegates.entries := by
    rw [taken.delegates]
    rfl
  have length : τ.reserved.length = σ.reserved.length + 1 := by
    rw [reserved, List.length_append, List.length_singleton]
  refine ⟨?_, ?_, ?_, ?_, ?_, ?_, ?_⟩
  · rw [length, List.range'_1_concat, List.map_append, ← orderly.reserved, reserved, orderly.next]
    rfl
  · rw [taken.delegates, length, ← Nat.add_assoc, UInt64.ofNat_add, ← orderly.next]
    rfl
  · rw [reserved, issued]
    refine (List.perm_append_singleton _ _).trans ?_
    refine (orderly.held.cons _).trans ?_
    exact List.perm_middle.symm.trans (taken.reserves.symm.append_left _)
  · rw [consumed]
    exact List.Subset.trans taken.runs orderly.runs
  · rw [entries, enlisted]
    exact orderly.entries
  · rw [invoked, enlisted]
    exact orderly.invoked
  · intro few
    rw [issued, entries, consumed]
    refine orderly.waiting ?_
    rw [Few, length] at few
    rw [Few]
    omega

theorem Orderly.enlists (orderly : σ.Orderly) {d : Delegate} (put : Enlists t d σ τ)
    : τ.Orderly := by
  have reserved : τ.reserved = σ.reserved ++ [] := view_append put.deeds _
  have enlisted : τ.enlisted = σ.enlisted ++ [(t, d)] := view_append put.deeds _
  have consumed : τ.consumed = σ.consumed ++ [] := view_append put.deeds _
  have invoked : τ.invoked = σ.invoked ++ [] := view_append put.deeds _
  rw [List.append_nil] at reserved consumed invoked
  have issued : τ.issued = σ.issued ++ [t] := by
    rw [Switchboard.issued, enlisted, List.map_append]
    rfl
  have entries : τ.delegates.entries = (σ.delegates.erase t).entries ++ [(t, d)] := by
    rw [put.delegates]
    rfl
  refine ⟨?_, ?_, ?_, ?_, ?_, ?_, ?_⟩
  · rw [reserved]
    exact orderly.reserved
  · rw [put.delegates, reserved]
    exact orderly.next
  · rw [reserved, issued, List.append_assoc]
    exact orderly.held.trans (put.reserves.append_left _)
  · rw [consumed]
    exact List.Subset.trans put.runs orderly.runs
  · rw [entries, enlisted]
    refine List.append_subset.2 ⟨fun e member => ?_, List.subset_append_right _ _⟩
    exact List.mem_append_left _ (orderly.entries (List.mem_of_mem_filter member))
  · rw [invoked, enlisted]
    exact List.Subset.trans orderly.invoked (List.subset_append_left _ _)
  · -- the token was taken for this delegate, so nobody else was given it or waits under it
    intro few
    rw [Few, reserved] at few
    have once := (put.reserves.append_left σ.issued).nodup_iff.1 (orderly.nodup_issued few)
    have fresh : t ∉ σ.issued := fun member =>
      (List.nodup_append.1 once).2.2 t member t List.mem_cons_self rfl
    rw [Registry.erase_of_not_mem fun member => fresh (orderly.waiting_issued member)] at entries
    rw [issued, entries, consumed, List.map_append, List.append_assoc]
    refine ((orderly.waiting few).append_right [t]).trans ?_
    rw [List.append_assoc]
    exact List.perm_append_comm.append_left _

theorem Orderly.consumes (orderly : σ.Orderly) {d : Delegate} {deed : TokenDeed}
    (out : Consumes t d deed σ τ)
    : τ.Orderly := by
  obtain ⟨none, none', some⟩
      : deed.reserved? = none ∧ deed.enlisted? = none ∧ deed.consumed? = some t := by
    rcases out.how with rfl | rfl | ⟨seat, rfl⟩ <;> exact ⟨rfl, rfl, rfl⟩
  have reserved : τ.reserved = σ.reserved ++ _ := view_append out.deeds _
  have enlisted : τ.enlisted = σ.enlisted ++ _ := view_append out.deeds _
  have consumed : τ.consumed = σ.consumed ++ _ := view_append out.deeds _
  have invoked : τ.invoked = σ.invoked ++ deed.invoked?.toList := view_append out.deeds _
  rw [none, Option.toList_none, List.append_nil] at reserved
  rw [none', Option.toList_none, List.append_nil] at enlisted
  rw [some, Option.toList_some] at consumed
  have issued : τ.issued = σ.issued := congrArg (List.map _) enlisted
  refine ⟨?_, ?_, ?_, ?_, ?_, ?_, ?_⟩
  · rw [reserved]
    exact orderly.reserved
  · rw [out.delegates, reserved]
    exact orderly.next
  · rw [reserved, issued]
    exact orderly.held.trans (out.reserves.symm.append_left _)
  · rw [consumed]
    refine List.Subset.trans out.runs (List.cons_subset.2 ⟨?_, ?_⟩)
    · exact List.mem_append_right _ (List.mem_singleton_self t)
    · exact List.Subset.trans orderly.runs (List.subset_append_left _ _)
  · rw [out.delegates, enlisted]
    exact fun e member => orderly.entries (List.mem_of_mem_filter member)
  · rw [invoked, enlisted]
    refine List.append_subset.2 ⟨orderly.invoked, ?_⟩
    rcases out.how with rfl | rfl | ⟨seat, rfl⟩
    · exact List.nil_subset _
    · exact List.nil_subset _
    · exact List.cons_subset.2 ⟨orderly.entries out.there, List.nil_subset _⟩
  · intro few
    rw [Few, reserved] at few
    have before := orderly.waiting few
    have once := (List.nodup_append.1 (orderly.nodup_issued few)).1
    have distinct := (List.nodup_append.1 (before.nodup_iff.1 once)).1
    rw [issued, consumed, out.delegates, ← List.append_assoc]
    refine before.trans (.trans ?_ List.perm_append_comm)
    exact (Registry.perm_erase distinct out.there).append_right _

theorem Orderly.turn (orderly : σ.Orderly) (turn : σ.Turn τ)
    : τ.Orderly := by
  rcases turn with same | taken | ⟨t, d, put⟩ | ⟨t, d, deed, out⟩
  · exact orderly.same same
  · exact orderly.reserves taken
  · exact orderly.enlists put
  · exact orderly.consumes out

theorem Orderly.run (orderly : σ.Orderly) (es : List (Nat × Move))
    : (σ.run es).Orderly :=
  keeps_turns (fun turn orderly => orderly.turn turn) orderly es

theorem orderly_run (settings : Settings) (threads : Nat → Thread) (es : List (Nat × Move))
    : ((start settings threads).run es).Orderly :=
  (orderly_start settings threads).run es

-----------------------------------------------------------------------------------------
-- Whole runs
-----------------------------------------------------------------------------------------

theorem consumed_count (σ : Switchboard) (t : Token)
    : σ.consumed.count t = σ.removed.count t + σ.found.count t :=
  TokenDeed.count_consumed σ.tokenDeeds t

theorem mem_consumed
    : t ∈ σ.consumed ↔ t ∈ σ.removed ∨ t ∈ σ.found := by
  rw [← List.count_pos_iff, ← List.count_pos_iff, ← List.count_pos_iff, consumed_count]
  omega

/-- Each token that was given out waits or was taken out, and not both. -/
theorem Orderly.nodup_waiting (orderly : σ.Orderly) (few : σ.Few)
    : (σ.delegates.entries.map (·.1) ++ σ.consumed).Nodup :=
  (orderly.waiting few).nodup_iff.1 (List.nodup_append.1 (orderly.nodup_issued few)).1

theorem Orderly.count_consumed_le (orderly : σ.Orderly) (few : σ.Few) (t : Token)
    : σ.removed.count t + σ.found.count t ≤ 1 := by
  rw [← consumed_count]
  exact List.nodup_iff_count_le_one.1 (List.nodup_append.1 (orderly.nodup_waiting few)).2.1 t

theorem Orderly.absent_of_consumed (orderly : σ.Orderly) (few : σ.Few) (gone : t ∈ σ.consumed)
    : t ∉ σ.delegates.entries.map (·.1) :=
  fun waits => (List.nodup_append.1 (orderly.nodup_waiting few)).2.2 t waits t gone rfl

theorem Orderly.contains_iff (orderly : σ.Orderly) (few : σ.Few)
    : σ.delegates.contains t = true ↔ t ∈ σ.issued ∧ t ∉ σ.consumed := by
  rw [Registry.contains_iff]
  constructor
  · intro waits
    exact ⟨orderly.waiting_issued waits, fun gone => orderly.absent_of_consumed few gone waits⟩
  · rintro ⟨issued, left⟩
    exact (List.mem_append.1 ((orderly.waiting few).mem_iff.1 issued)).resolve_right left

theorem Orderly.size_eq (orderly : σ.Orderly) (few : σ.Few)
    : σ.delegates.size = (σ.issued.filter fun t => t ∉ σ.consumed).length := by
  have parted := (orderly.waiting few).filter fun t => t ∉ σ.consumed
  have waits : (σ.delegates.entries.map (·.1)).filter (fun t => t ∉ σ.consumed)
      = σ.delegates.entries.map (·.1) :=
    List.filter_eq_self.2 fun t waits =>
      decide_eq_true fun gone => orderly.absent_of_consumed few gone waits
  have gone : σ.consumed.filter (fun t => t ∉ σ.consumed) = [] :=
    List.filter_eq_nil_iff.2 fun t member => by simpa using member
  rw [List.filter_append, waits, gone, List.append_nil] at parted
  rw [parted.length_eq, List.length_map]
  rfl

/-- A dispatch that names no waiting delegate only answers. -/
theorem dispatch_of_absent (k : Asker) (m : Option (Ref Native.Message))
    (c : Option (Ref Native.PendingCall)) (absent : t ∉ σ.delegates.entries.map (·.1))
    : σ.dispatch i k t m c
      = (σ.putState i ((σ.state i).note .unknownDelegate)).answer i k
          (.ok (.outcome .unknownDelegate)) := by
  rw [dispatch, Registry.take?_of_not_mem absent]

-----------------------------------------------------------------------------------------
-- A delegate and its own token
-----------------------------------------------------------------------------------------

theorem Orderly.absent_of_runs (orderly : σ.Orderly) (few : σ.Few) {f : Frame}
    (here : (i, f) ∈ σ.calls) (runs : t ∈ f.runs)
    : t ∉ σ.delegates.entries.map (·.1) :=
  orderly.absent_of_consumed few (orderly.runs (mem_carried.2 ⟨i, f, here, runs⟩))

theorem Orderly.dispatch_own (orderly : σ.Orderly) (few : σ.Few) {k : Asker} {next : Delegate}
    {seat : Seat} (here : σ.top i = some (.running k t (.dispatch t next) seat))
    : (σ.step (i, .advance)).top i
      = some (.running k t next (seat.learn (.outcome .unknownDelegate))) := by
  let ρ := σ.replace i (.running k t next seat)
  have absent : t ∉ ρ.delegates.entries.map (·.1) :=
    orderly.absent_of_runs few (mem_of_top here) (List.mem_singleton_self t)
  have waits : ρ.top i = some (.running k t next seat) := top_replace σ i _
  have stepped
      : σ.step (i, .advance)
        = ρ.dispatch i { inText := true } t seat.reply.raw seat.call.raw := by
    rw [step, move, advance, here]
    rfl
  have heard : (ρ.putState i ((ρ.state i).note .unknownDelegate)).top i = _ := waits
  rw [stepped, dispatch_of_absent _ _ _ absent, answer_inText _ _ heard, top_replace]
  rfl

theorem Orderly.remove_own (orderly : σ.Orderly) (few : σ.Few) {k : Asker} {next : Delegate}
    {seat : Seat} (here : σ.top i = some (.running k t (.table (.remove t) next) seat))
    : (σ.step (i, .advance)).top i = some (.running k t next (seat.learn (.flag false))) := by
  have absent := orderly.absent_of_runs few (mem_of_top here) (List.mem_singleton_self t)
  have missing : σ.delegates.contains t = false :=
    Bool.eq_false_iff.2 (mt Registry.contains_iff.1 absent)
  rw [(unregister_learns here).1, missing]

/-- The tokens of registrations are never zero and never the same, and calls answer as is recorded. Each token
is taken out of the table at most once, by an unregistration or a dispatch, and only by a dispatch does its
delegate run; so no delegate runs twice, or after its token was unregistered. The table holds exactly what was
given out and not taken out. A delegate that runs finds no delegate under its own token.
-/
theorem delivered_at_most_once (settings : Settings) (threads : Nat → Thread)
    (es : List (Nat × Move))
    (few : ((start settings threads).run es).reserved.length < UInt64.size - 1)
    : let σ := (start settings threads).run es
      (σ.reserved.Nodup ∧ 0 ∉ σ.reserved ∧ σ.issued.Nodup ∧ σ.issued ⊆ σ.reserved)
      ∧ σ.AnswersAsRecorded
      ∧ (∀ t, σ.removed.count t + σ.found.count t ≤ 1)
      ∧ (∀ t,
          (σ.invoked.map (·.1)).count t ≤ 1
          ∧ (t ∈ σ.removed → t ∉ σ.invoked.map (·.1)))
      ∧ σ.invoked ⊆ σ.enlisted
      ∧ (∀ t,
          σ.delegates.contains t = true
          ↔ t ∈ σ.issued ∧ t ∉ σ.removed ∧ t ∉ σ.found)
      ∧ σ.delegates.size = (σ.issued.filter fun t => t ∉ σ.consumed).length
      ∧ (∀ i f t,
          (i, f) ∈ σ.calls
          → t ∈ f.runs
          → (σ.delegates.unregister t).1 = false
            ∧ ∀ j m c, ((σ.exchange j).dispatch t m c).1 = .unknownDelegate)
      ∧ (∀ i k t next seat,
          σ.top i = some (.running k t (.dispatch t next) seat)
          → (σ.step (i, .advance)).top i
            = some (.running k t next (seat.learn (.outcome .unknownDelegate))))
      ∧ (∀ i k t next seat,
          σ.top i = some (.running k t (.table (.remove t) next) seat)
          → (σ.step (i, .advance)).top i
            = some (.running k t next (seat.learn (.flag false)))) := by
  have orderly := orderly_run settings threads es
  have answered := answersAsRecorded_run settings threads es
  dsimp only
  generalize (start settings threads).run es = σ at few orderly answered
  have bound := orderly.count_consumed_le few
  have ran (t : Token) : (σ.invoked.map (·.1)).count t ≤ σ.found.count t :=
    TokenDeed.count_invoked_le σ.tokenDeeds t
  refine ⟨⟨orderly.nodup_reserved few, orderly.zero_not_mem_reserved few, ?_, ?_⟩, answered, bound,
    ?_, orderly.invoked, ?_, orderly.size_eq few, ?_, ?_, ?_⟩
  · exact (List.nodup_append.1 (orderly.nodup_issued few)).1
  · exact fun t issued => orderly.held.mem_iff.2 (List.mem_append_left _ issued)
  · intro t
    have both := bound t
    have fewer := ran t
    refine ⟨by omega, fun removed invoked => ?_⟩
    have first := List.count_pos_iff.2 removed
    have second := List.count_pos_iff.2 invoked
    omega
  · intro t
    rw [orderly.contains_iff few, mem_consumed, not_or]
  · intro i f t here runs
    have absent := orderly.absent_of_runs few here runs
    refine ⟨Bool.eq_false_iff.2 (mt Registry.contains_iff.1 absent), fun j m c => ?_⟩
    rw [Exchange.dispatch_of_take?_none m c (Registry.take?_of_not_mem absent)]
  · exact fun i k t next seat here => orderly.dispatch_own few here
  · exact fun i k t next seat here => orderly.remove_own few here

/-- Two registrations overlap, and the token that was taken first is given out last. Its delegate
dispatches and unregisters its own token, while another thread dispatches the token as well.
-/
def overlapping : List (Nat × Move) :=
  [(0, .register (.dispatch 1 (.table (.remove 1) (.finish .ok)))), (1, .register (.finish .panic)),
    (1, .advance), (0, .advance), (0, .dispatch 1 (some ⟨0⟩) (some ⟨0⟩)), (0, .advance),
    (1, .dispatch 1 (some ⟨0⟩) (some ⟨0⟩))]

theorem overlapping_delivered_at_most_once
    : let σ := (start {} fun _ => {}).run overlapping
      σ.reserved.length < UInt64.size - 1
      ∧ σ.issued = [2, 1]
      ∧ σ.found = [1]
      ∧ σ.removed = []
      ∧ (∀ t, σ.removed.count t + σ.found.count t ≤ 1)
      ∧ σ.answers.count (.token 2) ≤ 1
      ∧ (σ.step (0, .advance)).top 0
        = some (.running { inText := false } 1 (.finish .ok)
            ((Seat.start ⟨0⟩ ⟨0⟩).learn (.outcome .unknownDelegate) |>.learn (.flag false))) := by
  have few : ((start {} fun _ => {}).run overlapping).reserved.length < UInt64.size - 1 := by
    decide
  obtain ⟨_, answered, once, _, _, _, _, _, _, own⟩ :=
    delivered_at_most_once {} (fun _ => {}) overlapping few
  refine ⟨few, rfl, rfl, rfl, once, answered.tokens 2, ?_⟩
  exact own 0 { inText := false } 1 (.finish .ok) _ rfl

end Switchboard

end Custody
