/-!
An append-only store of native objects. Objects are never moved or reclaimed, so a reference
stays readable after its object is freed, and a reference that was never allocated reads as a
blank object.
-/

namespace Custody

/-- A reference to a native object: its place in the order of allocation. -/
structure Ref (α : Type) where
  index : Nat
deriving DecidableEq

/-- The objects of one kind, in order of allocation. -/
structure Heap (α : Type) where
  cells : List α := []
deriving DecidableEq

namespace Heap

variable {α : Type}

/-- Writes one place of a list, with blanks in between when the list is shorter. -/
def place (blank : α) : List α → Nat → α → List α
  | [], 0, a => [a]
  | [], n + 1, a => blank :: place blank [] n a
  | _ :: rest, 0, a => a :: rest
  | b :: rest, n + 1, a => b :: place blank rest n a

/-- The number of objects allocated. -/
def size (h : Heap α) : Nat :=
  h.cells.length

/-- The object behind a reference. -/
def get [Inhabited α] (h : Heap α) (r : Ref α) : α :=
  h.cells.getD r.index default

/-- Replaces the object behind a reference. -/
def put [Inhabited α] (h : Heap α) (r : Ref α) (a : α) : Heap α :=
  ⟨place default h.cells r.index a⟩

/-- Stores a new object behind a new reference. -/
def alloc (h : Heap α) (a : α) : Ref α × Heap α :=
  (⟨h.cells.length⟩, ⟨h.cells ++ [a]⟩)

/-- A written place holds what was written. -/
theorem getD_place_self (blank : α) (cells : List α) (n : Nat) (a : α)
    : (place blank cells n a).getD n blank = a := by
  induction n generalizing cells with
  | zero => cases cells <;> rfl
  | succ n ih => cases cells <;> simpa [place] using ih _

/-- Writing one place keeps every other. -/
theorem getD_place_of_ne (blank : α) (cells : List α) {n m : Nat} (a : α) (h : m ≠ n)
    : (place blank cells n a).getD m blank = cells.getD m blank := by
  induction n generalizing cells m with
  | zero =>
      obtain ⟨m, rfl⟩ := Nat.exists_eq_succ_of_ne_zero h
      cases cells <;> simp [place]
  | succ n ih =>
      cases m with
      | zero => cases cells <;> simp [place]
      | succ m =>
          have step := fun rest => ih rest (m := m) (by omega)
          cases cells with
          | nil => simpa [place] using step []
          | cons b rest => simpa [place] using step rest

/-- Writing inside the list keeps its length. -/
theorem length_place (blank : α) (cells : List α) {n : Nat} (a : α) (h : n < cells.length)
    : (place blank cells n a).length = cells.length := by
  induction n generalizing cells with
  | zero =>
      cases cells with
      | nil => simp at h
      | cons b rest => rfl
  | succ n ih =>
      cases cells with
      | nil => simp at h
      | cons b rest => simp [place, ih rest (by simpa using h)]

/-- Writing what a place holds changes nothing. -/
theorem place_getD_self (blank : α) (cells : List α) {n : Nat} (h : n < cells.length)
    : place blank cells n (cells.getD n blank) = cells := by
  induction n generalizing cells with
  | zero =>
      cases cells with
      | nil => simp at h
      | cons b rest => rfl
  | succ n ih =>
      cases cells with
      | nil => simp at h
      | cons b rest => exact congrArg (b :: ·) (ih rest (by simpa using h))

/-- Writing never shortens the list. -/
theorem length_le_place (blank : α) (cells : List α) (n : Nat) (a : α)
    : cells.length ≤ (place blank cells n a).length := by
  induction n generalizing cells with
  | zero => cases cells <;> simp [place]
  | succ n ih =>
      cases cells with
      | nil => simp [place]
      | cons b rest => simpa [place] using ih rest

variable [Inhabited α]

/-- A replaced object reads as its replacement. -/
@[simp]
theorem get_put_self (h : Heap α) (r : Ref α) (a : α)
    : (h.put r a).get r = a :=
  getD_place_self default h.cells r.index a

/-- Replacing one object keeps the others. -/
theorem get_put_of_ne (h : Heap α) {r q : Ref α} (a : α) (ne : q ≠ r)
    : (h.put r a).get q = h.get q :=
  getD_place_of_ne default h.cells a fun same => ne (by cases q; cases r; simp_all)

/-- What a replacement keeps of its object is kept of every object. -/
theorem keeps_put {β : Type} (h : Heap α) {r : Ref α} {a : α} {f : α → β}
    (same : f a = f (h.get r)) (q : Ref α)
    : f ((h.put r a).get q) = f (h.get q) := by
  by_cases here : q = r
  · subst q
    rw [get_put_self, same]
  · rw [get_put_of_ne h a here]

theorem size_le_put (h : Heap α) (r : Ref α) (a : α)
    : h.size ≤ (h.put r a).size :=
  length_le_place default h.cells r.index a

/-- Replacing an allocated object keeps the number of objects. -/
theorem size_put (h : Heap α) {r : Ref α} (a : α) (old : r.index < h.size)
    : (h.put r a).size = h.size :=
  length_place default h.cells a old

/-- Replacing an allocated object by itself changes nothing. -/
theorem put_get_self (h : Heap α) {r : Ref α} (old : r.index < h.size)
    : h.put r (h.get r) = h :=
  congrArg Heap.mk (place_getD_self default h.cells old)

omit [Inhabited α] in
/-- Allocation adds one object. -/
@[simp]
theorem size_alloc (h : Heap α) (a : α)
    : (h.alloc a).2.size = h.size + 1 := by
  simp [alloc, size]

omit [Inhabited α] in
theorem size_lt_alloc (h : Heap α) (a : α)
    : h.size < (h.alloc a).2.size := by
  rw [size_alloc]
  exact Nat.lt_succ_self _

/-- A new reference reads as the object stored. -/
@[simp]
theorem get_alloc_self (h : Heap α) (a : α)
    : (h.alloc a).2.get (h.alloc a).1 = a := by
  simp [alloc, get]

/-- Allocation keeps the objects there were. -/
theorem get_alloc_of_ne (h : Heap α) {q : Ref α} (a : α) (old : q.index < h.size)
    : (h.alloc a).2.get q = h.get q := by
  simp only [alloc, get, List.getD_eq_getElem?_getD]
  rw [List.getElem?_append_left old]

/-- Beyond the objects there were, every reference reads as a blank one. -/
theorem get_of_size_le (h : Heap α) {q : Ref α} (beyond : h.size ≤ q.index)
    : h.get q = default := by
  rw [get, List.getD_eq_getElem?_getD, List.getElem?_eq_none beyond]
  rfl

/-- A new object is read behind its reference; elsewhere nothing changes. -/
theorem get_alloc (h : Heap α) (a : α) (q : Ref α)
    : (h.alloc a).2.get q = if q.index = h.size then a else h.get q := by
  split
  · next new =>
      obtain rfl : q = (h.alloc a).1 := congrArg Ref.mk new
      exact h.get_alloc_self a
  · next other =>
      by_cases old : q.index < h.size
      · exact h.get_alloc_of_ne a old
      · have beyond : h.size ≤ q.index := Nat.not_lt.1 old
        have beyondNow : (h.alloc a).2.size ≤ q.index := by
          rw [size_alloc]
          exact Nat.lt_of_le_of_ne beyond (Ne.symm other)
        rw [get_of_size_le _ beyond, get_of_size_le _ beyondNow]

/-- What a new object shares with a blank one is kept of every object. -/
theorem keeps_alloc {β : Type} (h : Heap α) {a : α} {f : α → β} (blank : f a = f default)
    (q : Ref α)
    : f ((h.alloc a).2.get q) = f (h.get q) := by
  rw [get_alloc]
  split
  · next new => rw [blank, get_of_size_le h (Nat.le_of_eq new.symm)]
  · rfl

end Heap

end Custody
