import Custody.Delegate

/-!
The table of waiting delegates. Each is named by a token; tokens are given out in order and never
reused before they run out.
-/

namespace Custody

/-- The next token, and the delegates that wait, oldest first. -/
structure Registry where
  next : Token := 1
  entries : List (Token × Delegate) := []
deriving DecidableEq

instance : Inhabited Registry := ⟨{}⟩

namespace Registry

/-- Whether the delegate of a token waits. -/
def contains (r : Registry) (t : Token) : Bool :=
  r.entries.any (·.1 == t)

/-- The number of waiting delegates. -/
def size (r : Registry) : Nat :=
  r.entries.length

/-- The table without a token. -/
def erase (r : Registry) (t : Token) : Registry :=
  { r with entries := r.entries.filter (·.1 != t) }

/-- Puts a delegate into the table under the next token. -/
def register (r : Registry) (d : Delegate) : Token × Registry :=
  (r.next, { next := r.next + 1, entries := (r.erase r.next).entries ++ [(r.next, d)] })

/-- Takes a token out of the table; answers whether it was there. -/
def unregister (r : Registry) (t : Token) : Bool × Registry :=
  (r.contains t, r.erase t)

/-- The delegate of a token, and the table without it. Token zero names no delegate. -/
def take? (r : Registry) (t : Token) : Option (Delegate × Registry) :=
  if t = 0 then none else (r.entries.lookup t).map fun d => (d, r.erase t)

/-- Acts on the table for a delegate. -/
def perform (r : Registry) : TableAct → Answer × Registry
  | .count => (.count r.size, r)
  | .contains t => (.flag (r.contains t), r)
  | .remove t => (.flag (r.unregister t).1, (r.unregister t).2)

-----------------------------------------------------------------------------------------
-- The weight of a table bounds what its delegates can still do
-----------------------------------------------------------------------------------------

/-- The number of steps in the texts of all delegates of a list. -/
def totalWeight : List (Token × Delegate) → Nat
  | [] => 0
  | (_, d) :: rest => d.weight + totalWeight rest

/-- The number of steps in the texts of all waiting delegates. -/
def weight (r : Registry) : Nat :=
  totalWeight r.entries

/-- The weights of joined lists add, by list induction. -/
theorem totalWeight_append (front back : List (Token × Delegate))
    : totalWeight (front ++ back) = totalWeight front + totalWeight back := by
  induction front with
  | nil => simp [totalWeight]
  | cons entry rest ih => simp only [List.cons_append, totalWeight, ih]; omega

/-- Leaving entries out never adds weight, by list induction. -/
theorem totalWeight_filter_le (keep : Token × Delegate → Bool)
    (entries : List (Token × Delegate))
    : totalWeight (entries.filter keep) ≤ totalWeight entries := by
  induction entries with
  | nil => exact Nat.le_refl _
  | cons entry rest ih =>
      simp only [List.filter_cons]
      split <;> simp only [totalWeight] <;> omega

/-- Erasing a token never adds weight. -/
theorem weight_erase_le (r : Registry) (t : Token)
    : (r.erase t).weight ≤ r.weight :=
  totalWeight_filter_le _ r.entries

/-- A registration adds at most the weight of its delegate. -/
theorem weight_register_le (r : Registry) (d : Delegate)
    : (r.register d).2.weight ≤ r.weight + d.weight := by
  have erased := r.weight_erase_le r.next
  simp only [weight, register, totalWeight_append, totalWeight] at erased ⊢
  omega

/-- An entry that is looked up outweighs what erasing its token leaves out, by list induction. -/
theorem totalWeight_lookup_le {entries : List (Token × Delegate)} {t : Token} {d : Delegate}
    (found : entries.lookup t = some d)
    : totalWeight (entries.filter (·.1 != t)) + d.weight ≤ totalWeight entries := by
  induction entries with
  | nil => simp at found
  | cons entry rest ih =>
      obtain ⟨key, value⟩ := entry
      by_cases same : t = key
      · subst same
        simp only [List.lookup_cons, beq_self_eq_true, Option.some.injEq] at found
        subst found
        have left := totalWeight_filter_le (·.1 != t) rest
        simp [totalWeight]
        omega
      · have key_ne : (t == key) = false := by simpa using same
        simp only [List.lookup_cons, key_ne] at found
        have step := ih found
        have kept : (key != t) = true := by simpa using Ne.symm same
        simp only [List.filter_cons, kept, if_true, totalWeight]
        omega

/-- A taken delegate and the table it leaves weigh no more than the table did. -/
theorem weight_take?_le {r rest : Registry} {t : Token} {d : Delegate}
    (taken : r.take? t = some (d, rest))
    : rest.weight + d.weight ≤ r.weight := by
  unfold take? at taken
  split at taken
  · contradiction
  · simp only [Option.map_eq_some_iff, Prod.mk.injEq] at taken
    obtain ⟨d', found, rfl, rfl⟩ := taken
    exact totalWeight_lookup_le found

/-- No act on the table adds weight. -/
theorem weight_perform_le (r : Registry) (a : TableAct)
    : (r.perform a).2.weight ≤ r.weight := by
  cases a with
  | count => exact Nat.le_refl _
  | contains t => exact Nat.le_refl _
  | remove t => exact r.weight_erase_le t

end Registry

end Custody
