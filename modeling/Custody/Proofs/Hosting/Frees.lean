import Custody.Proofs.Hosting.Host

/-! Which frees run away from the main loop: those that callers ask for by disposing of a wrapper, and
those of buffers that were made for a wrapper and whose contents were refused. Nothing that is dropped,
and nothing that a flush finds, is freed there.
-/

namespace Custody.Host

variable (σ : Host)

/-- Whether a thread is that of the main loop. -/
def onMainLoop (i : Nat) : Bool :=
  (σ.board.threads i).onMainLoop

def freed (h : NativeHandle) : Nat :=
  σ.board.world.freed h

/-- How often an object is freed by the calls of a run that are made away from the main loop. -/
def freedAway (h : NativeHandle) : Host → List (Nat × Call) → Nat
  | _, [] => 0
  | σ, e :: es =>
      (if σ.onMainLoop e.1 then 0 else (σ.step e).freed h - σ.freed h) + freedAway h (σ.step e) es

/-- What the calls of a run that are made away from the main loop dispose of. -/
def disposedAway : Host → List (Nat × Call) → List NativeHandle
  | _, [] => []
  | σ, e :: es =>
      (if σ.onMainLoop e.1 then [] else σ.disposes e.1 e.2) ++ disposedAway (σ.step e) es

/-- In a run a buffer is made away from the main loop, and its contents are refused. -/
def RefusedAway : Host → List (Nat × Call) → Prop
  | _, [] => False
  | σ, e :: es => σ.onMainLoop e.1 = false ∧ σ.Refused e.1 e.2 ∨ RefusedAway (σ.step e) es

/-- No other call moves a thread. -/
theorem onMainLoop_step {e : Nat × Call} (stays : ¬ SetsMainLoop e.2)
    : (σ.step e).onMainLoop e.1 = σ.onMainLoop e.1 := by
  obtain ⟨_, went⟩ := (σ.frees_call e.1 stays).proceeds
  exact went.onMainLoop

/-- One call away from the main loop frees what it disposes of, and a buffer that is refused. -/
theorem freed_step {e : Nat × Call} (away : σ.onMainLoop e.1 = false)
    : ∃ strays : List NativeHandle,
        (strays = [] ↔ ¬ σ.Refused e.1 e.2)
        ∧ ∀ h, (σ.step e).freed h = σ.freed h + (σ.disposes e.1 e.2 ++ strays).count h := by
  by_cases sets : SetsMainLoop e.2
  · obtain ⟨world, disposes, kept⟩ := σ.call_setMainLoop e.1 sets
    refine ⟨[], by simp [kept], fun h => ?_⟩
    rw [disposes]
    exact congrArg (World.freed · h) world
  · have frees := σ.frees_call e.1 sets
    by_cases refused : σ.Refused e.1 e.2
    · obtain ⟨r, -, went⟩ := frees.stray refused
      exact ⟨[.buffer r], by simp [refused], went.away away⟩
    · refine ⟨[], by simp [refused], ?_⟩
      rw [List.append_nil]
      exact (frees.asked refused).away away

/-- A run away from the main loop frees what it disposes of, and the buffers that are refused; by
induction on the calls.
-/
theorem freedAway_eq (es : List (Nat × Call))
    : ∃ strays : List NativeHandle,
        (strays = [] ↔ ¬ RefusedAway σ es)
        ∧ ∀ h, freedAway h σ es = (disposedAway σ es).count h + strays.count h := by
  induction es generalizing σ with
  | nil => exact ⟨[], by simp [RefusedAway], fun h => rfl⟩
  | cons e rest ih =>
      obtain ⟨later, none, counts⟩ := ih (σ.step e)
      cases away : σ.onMainLoop e.1 with
      | true =>
          refine ⟨later, by simp [RefusedAway, away, none], fun h => ?_⟩
          simp only [freedAway, disposedAway, away, if_true, List.nil_append, Nat.zero_add, counts]
      | false =>
          obtain ⟨strays, kept, freed⟩ := σ.freed_step away
          refine ⟨strays ++ later, by simp [RefusedAway, away, none, kept], fun h => ?_⟩
          simp only [freedAway, disposedAway, away, Bool.false_eq_true, if_false, freed, counts,
            List.count_append]
          omega

/-- Away from the main loop a run frees nothing but what callers dispose of if, and only if, no buffer
is made there whose contents are refused; and while a call runs its thread does not change place.
-/
theorem frees_wait_for_main_loop (settings : Settings) (threads : Nat → Thread)
    (es : List (Nat × Call))
    : ((∀ h,
          freedAway h (start settings threads) es
          = (disposedAway (start settings threads) es).count h)
        ↔ ¬ RefusedAway (start settings threads) es)
      ∧ ∀ e,
          ¬ SetsMainLoop e.2
          → (((start settings threads).run es).step e).onMainLoop e.1
            = ((start settings threads).run es).onMainLoop e.1 := by
  obtain ⟨strays, kept, counts⟩ := freedAway_eq (start settings threads) es
  refine ⟨?_, fun e stays => onMainLoop_step _ stays⟩
  rw [← kept]
  constructor
  · intro same
    refine List.eq_nil_iff_forall_not_mem.2 fun h member => ?_
    have more := List.count_pos_iff.2 member
    have count := counts h
    rw [same h] at count
    omega
  · rintro rfl h
    exact counts h

/-- A worker that asks for more bytes than it gives. -/
def shortOfBytes : List (Nat × Call) :=
  [(1, .data (.bufferOfBytes [1, 2] 5))]

/-- The threads, of which only the first is that of the main loop. -/
def workers (i : Nat) : Thread :=
  { onMainLoop := i == 0 }

/-- The buffer that the worker does not get is freed on its thread, and nobody disposed of it. -/
theorem shortOfBytes_freed_away
    : ¬ ∀ h,
        freedAway h (start {} workers) shortOfBytes
        = (disposedAway (start {} workers) shortOfBytes).count h := by
  intro same
  exact absurd (same (.buffer ⟨0⟩)) (by decide)

end Custody.Host
