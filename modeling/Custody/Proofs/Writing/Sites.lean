import Custody.Proofs.Buffers.Frame
import Custody.Proofs.Reading.Steps

/-! Where written values go, and what a write leaves as it was. Values go to the body of a message,
or wait inside a container until it is closed; then they reach its parent as one value.
-/

namespace Custody

/-- A sequence of values that can be written on. -/
inductive Site
  | top (message : Ref Native.Message)
  | inside (container : Ref Native.BodyCursor)
deriving DecidableEq

namespace State

/-- The values written at a site so far. -/
def written (s : State) : Site → Body
  | .top m => (s.message m).body
  | .inside q => (s.bodyCursor q).items

/-- Where a position writes. -/
def site (s : State) (q : Ref Native.BodyCursor) : Site :=
  match (s.bodyCursor q).target with
  | some m => .top m
  | none => .inside q

/-- A wrapper whose position was made and writes at the site. -/
def WritesAt (s : State) (c : BodyCursor) (e : Site) : Prop :=
  ∃ q, c.raw = some q ∧ q.index < s.cursorCount ∧ s.site q = e

/-- A container is at a position that was made; every message counts as made. -/
def HasSite (s : State) : Site → Prop
  | .top _ => True
  | .inside q => q.index < s.cursorCount

/-- The second state is the first after changes at one site. -/
structure Touched (e : Site) (s t : State) : Prop where
  unplanned : s.Unplanned → t.Unplanned
  calm : s.thread.Calm → t.thread.Calm
  count : s.cursorCount ≤ t.cursorCount
  others : ∀ d, s.HasSite d → d ≠ e → t.written d = s.written d
  target
    : ∀ q : Ref Native.BodyCursor,
        q.index < s.cursorCount → (t.bodyCursor q).target = (s.bodyCursor q).target
  code
    : ∀ q : Ref Native.BodyCursor,
        q.index < s.cursorCount → (t.bodyCursor q).code = (s.bodyCursor q).code

/-- The second state is the first after values were written at the end of a site. -/
structure Wrote (e : Site) (values : Body) (s t : State) : Prop extends Touched e s t where
  written : t.written e = s.written e ++ values

variable {s t u : State} {e : Site} {a b : Body} {q p : Ref Native.BodyCursor}

theorem HasSite.mono (has : s.HasSite e) (count : s.cursorCount ≤ t.cursorCount)
    : t.HasSite e := by
  cases e with
  | top m => trivial
  | inside q => exact Nat.lt_of_lt_of_le has count

theorem hasSite_site (old : q.index < s.cursorCount)
    : s.HasSite (s.site q) := by
  unfold site
  cases (s.bodyCursor q).target with
  | none => exact old
  | some m => trivial

theorem site_congr (same : (t.bodyCursor q).target = (s.bodyCursor q).target)
    : t.site q = s.site q := by
  rw [site, site, same]

theorem Touched.refl (e : Site) (s : State)
    : Touched e s s where
  unplanned := id
  calm := id
  count := Nat.le_refl _
  others _ _ _ := rfl
  target _ _ := rfl
  code _ _ := rfl

theorem Touched.trans (first : Touched e s t) (second : Touched e t u)
    : Touched e s u where
  unplanned := second.unplanned ∘ first.unplanned
  calm := second.calm ∘ first.calm
  count := Nat.le_trans first.count second.count
  others d has ne := by
    rw [second.others d (has.mono first.count) ne, first.others d has ne]
  target q old := by
    rw [second.target q (Nat.lt_of_lt_of_le old first.count), first.target q old]
  code q old := by
    rw [second.code q (Nat.lt_of_lt_of_le old first.count), first.code q old]

/-- Changes at a site that was not there do not count. -/
theorem Touched.aside (first : Touched e s t) {d : Site} (second : Touched d t u)
    (new : ¬ s.HasSite d)
    : Touched e s u where
  unplanned := second.unplanned ∘ first.unplanned
  calm := second.calm ∘ first.calm
  count := Nat.le_trans first.count second.count
  others d' has ne := by
    have apart : d' ≠ d := fun same => new (same ▸ has)
    rw [second.others d' (has.mono first.count) apart, first.others d' has ne]
  target q old := by
    rw [second.target q (Nat.lt_of_lt_of_le old first.count), first.target q old]
  code q old := by
    rw [second.code q (Nat.lt_of_lt_of_le old first.count), first.code q old]

namespace Wrote

theorem refl (e : Site) (s : State)
    : Wrote e .empty s s :=
  ⟨.refl e s, (Body.append_empty _).symm⟩

theorem trans (first : Wrote e a s t) (second : Wrote e b t u)
    : Wrote e (a ++ b) s u := by
  refine ⟨first.toTouched.trans second.toTouched, ?_⟩
  rw [second.written, first.written, Body.append_assoc]

/-- What is written at a site stays when another changes that was not there. -/
theorem aside (first : Wrote e a s t) {d : Site} (second : Touched d t u) (has : s.HasSite e)
    (new : ¬ s.HasSite d)
    : Wrote e a s u := by
  refine ⟨first.toTouched.aside second new, ?_⟩
  have apart : e ≠ d := fun same => new (same ▸ has)
  rw [second.others e (has.mono first.count) apart, first.written]

/-- A position writes where it wrote before. -/
theorem site (done : Wrote e a s t) (old : q.index < s.cursorCount)
    : t.site q = s.site q :=
  site_congr (done.target q old)

end Wrote

theorem touched_setMessage (s : State) (m : Ref Native.Message) (c : Native.Message)
    : Touched (.top m) s (s.setMessage m c) where
  unplanned := id
  calm := id
  count := Nat.le_refl _
  others d _ ne := by
    cases d with
    | top m' =>
        have other : m' ≠ m := fun same => ne (congrArg _ same)
        exact congrArg Native.Message.body (Heap.get_put_of_ne _ _ other)
    | inside q => rfl
  target _ _ := rfl
  code _ _ := rfl

theorem wrote_pushMessage (s : State) (m : Ref Native.Message) (values : Body)
    (signature : String)
    : Wrote (.top m) values s (s.setMessage m ((s.message m).push values signature)) where
  toTouched := touched_setMessage s m _
  written := congrArg Native.Message.body (Heap.get_put_self _ _ _)

theorem touched_setBodyCursor (old : q.index < s.cursorCount) {c : Native.BodyCursor}
    (target : c.target = (s.bodyCursor q).target) (code : c.code = (s.bodyCursor q).code)
    : Touched (.inside q) s (s.setBodyCursor q c) where
  unplanned := id
  calm := id
  count := Nat.le_of_eq (cursorCount_setBodyCursor s c old).symm
  others d _ ne := by
    cases d with
    | top m => rfl
    | inside p =>
        have other : p ≠ q := fun same => ne (congrArg _ same)
        rw [State.written, bodyCursor_setBodyCursor_of_ne s c other]
        rfl
  target p _ := by
    by_cases same : p = q
    · rw [same, bodyCursor_setBodyCursor_self, target]
    · rw [bodyCursor_setBodyCursor_of_ne s c same]
  code p _ := by
    by_cases same : p = q
    · rw [same, bodyCursor_setBodyCursor_self, code]
    · rw [bodyCursor_setBodyCursor_of_ne s c same]

theorem wrote_setItems (old : q.index < s.cursorCount) {c : Native.BodyCursor}
    (items : c.items = (s.bodyCursor q).items ++ a)
    (target : c.target = (s.bodyCursor q).target) (code : c.code = (s.bodyCursor q).code)
    : Wrote (.inside q) a s (s.setBodyCursor q c) := by
  refine ⟨touched_setBodyCursor old target code, ?_⟩
  rw [State.written, bodyCursor_setBodyCursor_self, items]
  rfl

theorem wrote_push (old : q.index < s.cursorCount) (values : Body) (signature : String)
    : Wrote (s.site q) values s (s.push q values signature) := by
  unfold push State.site
  cases (s.bodyCursor q).target with
  | none => exact wrote_setItems old rfl rfl rfl
  | some m => exact wrote_pushMessage s m values signature

/-- A failure is used up if one waits, and else nothing changes. -/
theorem takeCursorFailure_cases (old : q.index < s.cursorCount)
    : (∃ t, s.takeCursorFailure q = (true, t)) ∨ s.takeCursorFailure q = (false, s) := by
  cases fails : (s.bodyCursor q).failNext with
  | true => exact .inl ⟨_, Prod.ext fails rfl⟩
  | false =>
      have same : ({ s.bodyCursor q with failNext := false } : Native.BodyCursor)
          = s.bodyCursor q := by
        rw [← fails]
      have kept : s.setBodyCursor q (s.bodyCursor q) = s :=
        congrArg (fun h => { s with world := { s.world with bodyCursors := h } })
          (s.world.bodyCursors.put_get_self old)
      exact .inr (Prod.ext fails ((congrArg (s.setBodyCursor q) same).trans kept))

end State

end Custody
