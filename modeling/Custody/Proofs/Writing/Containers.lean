import Custody.Proofs.Writing.Sites

/-! What a write that succeeds leaves, for each operation of a message and of a position. A container
that is opened, written and closed is one value more where it was opened.
-/

namespace Custody

open State

variable {s t u v w : State} {q p : Ref Native.BodyCursor} {r : Ref Native.Message} {a : Argument}

/-- A basic value goes to the end of the message, under its letter. -/
theorem Message.append_eq {m : Message} (raw : m.raw = some r)
    (appended : m.append a s = (.ok (), t))
    : a.fits = true
      ∧ t = s.setMessage r ((s.message r).push (.one a.code a.scalar) a.type.letter) := by
  rw [append, raw, State.live, Attempt.andThen_ok, writeMessage] at appended
  cases fit : a.fits with
  | false => simp [fit] at appended
  | true =>
      cases fails : (s.message r).failNext with
      | true => simp [fit, fails] at appended
      | false =>
          simp only [fit, fails, Bool.not_true, Bool.false_eq_true, if_false, Prod.mk.injEq,
            true_and] at appended
          exact ⟨rfl, appended.symm⟩

theorem Message.append_ok {m : Message} (raw : m.raw = some r)
    (appended : m.append a s = (.ok (), t))
    : a.fits = true ∧ Wrote (.top r) (.one a.code a.scalar) s t := by
  obtain ⟨fit, rfl⟩ := append_eq raw appended
  exact ⟨fit, wrote_pushMessage s r _ _⟩

/-- A basic value goes to where the position writes, under its letter. -/
theorem BodyCursor.append_eq (old : q.index < s.cursorCount)
    (appended : BodyCursor.append ⟨some q⟩ a s = (.ok (), t))
    : a.fits = true ∧ t = s.push q (.one a.code a.scalar) a.type.letter := by
  rw [append, State.live, Attempt.andThen_ok, writeCursor] at appended
  cases fit : a.fits with
  | false => simp [fit] at appended
  | true =>
      rcases takeCursorFailure_cases old with ⟨_, fails⟩ | calm
      · simp [fit, fails] at appended
      · simp only [fit, calm, Bool.not_true, Bool.false_eq_true, if_false, Prod.mk.injEq,
          true_and] at appended
        exact ⟨rfl, appended.symm⟩

theorem BodyCursor.append_ok (old : q.index < s.cursorCount)
    (appended : BodyCursor.append ⟨some q⟩ a s = (.ok (), t))
    : a.fits = true ∧ Wrote (s.site q) (.one a.code a.scalar) s t := by
  obtain ⟨fit, rfl⟩ := append_eq old appended
  exact ⟨fit, wrote_push old _ _⟩

/-- A position that was made for a message writes at its top. -/
theorem Message.cursor_ok {m : Message} {c : BodyCursor} (raw : m.raw = some r)
    (made : m.cursor s = (.ok c, t))
    : c = ⟨some ⟨s.cursorCount⟩⟩
      ∧ t = (s.newBodyCursor { target := some r, rest := (s.message r).body }).2 := by
  rw [cursor, raw, State.live, Attempt.andThen_ok, State.makeBodyCursor] at made
  cases refused : s.world.planned.noCursor with
  | true => simp [refused, State.live] at made
  | false =>
      simp only [refused, Bool.false_eq_true, if_false, State.live, Attempt.andThen_ok,
        Prod.mk.injEq, Except.ok.injEq] at made
      exact ⟨made.1.symm, made.2.symm⟩

/-- A container is opened at a new position without values. -/
theorem BodyCursor.openContainer_ok {c : BodyCursor} {k : ArgumentType} {contained : Option String}
    (old : q.index < s.cursorCount)
    (opened : BodyCursor.openContainer ⟨some q⟩ k contained s = (.ok c, t))
    : c = ⟨some ⟨s.cursorCount⟩⟩
      ∧ t = (s.newBodyCursor { code := k.code, contained := contained.getD "" }).2 := by
  rw [openContainer, State.live, Attempt.andThen_ok, openAt] at opened
  split at opened
  · simp at opened
  · split at opened
    · simp at opened
    · cases refused : s.world.planned.noContainer with
      | true => simp [refused] at opened
      | false =>
          rcases takeCursorFailure_cases old with ⟨_, fails⟩ | calm
          · simp [refused, fails] at opened
          · simp only [refused, calm, Bool.false_eq_true, if_false, Prod.mk.injEq,
              Except.ok.injEq] at opened
            obtain ⟨rfl, rfl⟩ := opened
            exact ⟨rfl, rfl⟩

/-- The signature that a container is opened with holds no NUL. -/
theorem BodyCursor.fits_of_openContainer {c : BodyCursor} {k : ArgumentType}
    {contained : Option String}
    (opened : BodyCursor.openContainer ⟨some q⟩ k contained s = (.ok c, t))
    : ZeroTerminated.fits (contained.getD "") = true := by
  rw [openContainer, State.live, Attempt.andThen_ok] at opened
  cases contained with
  | none => rfl
  | some text =>
      cases fit : ZeroTerminated.fits text with
      | true => exact fit
      | false =>
          simp only [Option.elim_some, fit, Bool.not_false, if_true] at opened
          split at opened <;> simp at opened

/-- The position of a container that is opened was not there before. -/
theorem BodyCursor.lt_cursorCount_openContainer {k : ArgumentType} {contained : Option String}
    {inner : BodyCursor} (old : q.index < s.cursorCount)
    (opened : BodyCursor.openContainer ⟨some q⟩ k contained s = (.ok inner, t))
    : s.cursorCount < t.cursorCount := by
  obtain ⟨-, rfl⟩ := openContainer_ok old opened
  exact s.lt_cursorCount_newBodyCursor _

/-- Closing takes the values out of the container and writes them at its parent as one value. -/
theorem BodyCursor.closeContainer_ok (old : q.index < s.cursorCount)
    (closed : BodyCursor.closeContainer ⟨some q⟩ ⟨some p⟩ s = (.ok (), t))
    : t = (s.setBodyCursor p { s.bodyCursor p with items := .empty }).push q
        (.box (s.bodyCursor p).code (s.bodyCursor p).items) (s.bodyCursor p).closedSignature := by
  rw [closeContainer, State.live, Attempt.andThen_ok, State.live, Attempt.andThen_ok,
    closeAt] at closed
  cases refused : s.world.planned.noClose with
  | true => simp [refused] at closed
  | false =>
      rcases takeCursorFailure_cases old with ⟨_, fails⟩ | calm
      · simp [refused, fails] at closed
      · simp only [refused, calm, Bool.false_eq_true, if_false, Prod.mk.injEq, true_and] at closed
        exact closed.symm

/-- A block of bytes waits at its position, which is made for a container. -/
theorem BodyCursor.appendFixed_eq {k : ArgumentType} {slice : Slice} (old : q.index < s.cursorCount)
    (appended : BodyCursor.appendFixed ⟨some q⟩ k slice s = (.ok (), t))
    : t = s.setBodyCursor q
        { s.bodyCursor q with
          items := (s.bodyCursor q).items ++ .one 'y' (.bytes slice.bytes) } := by
  rw [appendFixed, State.live, Attempt.andThen_ok, writeBlock] at appended
  split at appended
  · simp at appended
  · cases refused : s.world.planned.noFixedArray with
    | true => simp [refused] at appended
    | false =>
        rcases takeCursorFailure_cases old with ⟨_, fails⟩ | calm
        · simp [refused, fails] at appended
        · simp only [refused, calm, Bool.false_eq_true, if_false, Prod.mk.injEq,
            true_and] at appended
          exact appended.symm

theorem BodyCursor.appendFixed_ok {k : ArgumentType} {slice : Slice} (old : q.index < s.cursorCount)
    (appended : BodyCursor.appendFixed ⟨some q⟩ k slice s = (.ok (), t))
    : Wrote (.inside q) (.one 'y' (.bytes slice.bytes)) s t := by
  rw [appendFixed_eq old appended]
  exact wrote_setItems old rfl rfl rfl

/-- A new container has no values yet, and writes inside itself. -/
theorem State.touched_newBodyCursor (e : Site) (s : State) (c : Native.BodyCursor)
    : Touched e s (s.newBodyCursor c).2 where
  unplanned := id
  calm := id
  count := Nat.le_of_lt (s.lt_cursorCount_newBodyCursor c)
  others d has _ := by
    cases d with
    | top m => rfl
    | inside q => rw [written, written, s.bodyCursor_newBodyCursor_of_old c has]
  target q old := by rw [s.bodyCursor_newBodyCursor_of_old c old]
  code q old := by rw [s.bodyCursor_newBodyCursor_of_old c old]

theorem State.wrote_newBodyCursor {e : Site} {s : State} (has : s.HasSite e)
    (c : Native.BodyCursor)
    : Wrote e .empty s (s.newBodyCursor c).2 := by
  refine ⟨touched_newBodyCursor e s c, ?_⟩
  rw [Body.append_empty]
  cases e with
  | top m => rfl
  | inside q => rw [written, written, s.bodyCursor_newBodyCursor_of_old c has]

/-- A container that was opened, filled and closed is one more value of its parent. -/
theorem BodyCursor.wrote_box {c : BodyCursor} {k : ArgumentType} {contained : Option String}
    {items : Body} (old : q.index < s.cursorCount)
    (opened : BodyCursor.openContainer ⟨some q⟩ k contained s = (.ok c, t))
    (filled : Wrote (.inside ⟨s.cursorCount⟩) items t u)
    (closed : BodyCursor.closeContainer ⟨some q⟩ c u = (.ok (), v))
    : Wrote (s.site q) (.box k.code items) s v := by
  obtain ⟨rfl, rfl⟩ := openContainer_ok old opened
  have has := hasSite_site old
  have start := wrote_newBodyCursor has { code := k.code, contained := contained.getD "" }
  have inner : (s.newBodyCursor { code := k.code, contained := contained.getD "" }).2.bodyCursor
      ⟨s.cursorCount⟩ = { code := k.code, contained := contained.getD "" } :=
    s.bodyCursor_newBodyCursor_self _
  have new : ¬ s.HasSite (.inside ⟨s.cursorCount⟩) := Nat.lt_irrefl s.cursorCount
  have made := s.lt_cursorCount_newBodyCursor { code := k.code, contained := contained.getD "" }
  have code : (u.bodyCursor ⟨s.cursorCount⟩).code = k.code := by
    rw [filled.code ⟨s.cursorCount⟩ made, inner]
  have values : (u.bodyCursor ⟨s.cursorCount⟩).items = items := by
    have written := filled.written
    rw [State.written, State.written, inner] at written
    exact written
  have filledAside := start.aside filled.toTouched has new
  have emptied := filledAside.aside
    (touched_setBodyCursor (s := u) (q := ⟨s.cursorCount⟩)
      (c := { u.bodyCursor ⟨s.cursorCount⟩ with items := .empty })
      (Nat.lt_of_lt_of_le made filled.count) rfl rfl) has new
  have oldNow := Nat.lt_of_lt_of_le old filledAside.count
  rw [closeContainer_ok oldNow closed, code, values]
  have pushed := wrote_push (Nat.lt_of_lt_of_le old emptied.count) (.box k.code items)
    (u.bodyCursor ⟨s.cursorCount⟩).closedSignature
  rw [emptied.site old] at pushed
  exact emptied.trans pushed

end Custody
