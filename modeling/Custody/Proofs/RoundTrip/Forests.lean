import Custody.Proofs.Reading.Positions
import Custody.Proofs.RoundTrip.Slots
import Custody.Proofs.Writing.Containers

/-! Nested arrays of basic values survive a message: what any writers of it wrote, in whatever
calls, a walk by the types that its reader tells finds again.
-/

namespace Custody

open State

/-- Basic values and arrays, in order, to any depth. -/
inductive Forest
  | empty
  | leaf (value : Argument) (rest : Forest)
  | array (items rest : Forest)
deriving DecidableEq

namespace Forest

/-- The values as they are stored in a body. -/
def body : Forest → Body
  | empty => .empty
  | leaf a rest => .scalar a.code a.scalar rest.body
  | array items rest => .container 'a' items.body rest.body

/-- Whether all values can be handed over. -/
def fits : Forest → Bool
  | empty => true
  | leaf a rest => a.fits && rest.fits
  | array items rest => items.fits && rest.fits

/-- The number of values and arrays, at every depth. -/
def size : Forest → Nat
  | empty => 0
  | leaf _ rest => rest.size + 1
  | array items rest => items.size + rest.size + 1

theorem wellCoded_body (f : Forest)
    : f.body.wellCoded = true := by
  induction f with
  | empty => rfl
  | leaf a rest ih => simp [body, Body.wellCoded, Argument.code, ih]
  | array items rest ihItems ihRest =>
      simp only [body, Body.wellCoded, ihItems, ihRest]
      rfl

end Forest

theorem Argument.isBasic_type (a : Argument)
    : a.type.isBasic = true := by
  cases a <;> rfl

-----------------------------------------------------------------------------------------
-- Writing
-----------------------------------------------------------------------------------------

/-- What values are written through. -/
inductive Writer
  | message (m : Message)
  | position (c : BodyCursor)

/-- Appends a basic value. -/
def Writer.append (w : Writer) (a : Argument) (s : State) : Attempt BusError Unit :=
  match w with
  | message m => m.append a s
  | position c => c.append a s

/-- Writing a forest through the given writers, where every call succeeds. Each value goes through
any writer there is; a writer of a message can make more of them; and an array is filled through the
position that was opened for it.
-/
inductive Writes : List Writer → Forest → State → State → Prop
  | done {ws s} : Writes ws .empty s s
  | position {ws m c f s t u} (writer : .message m ∈ ws) (made : Message.cursor m s = (.ok c, t))
      (more : Writes (.position c :: ws) f t u)
    : Writes ws f s u
  | leaf {ws w a f s t u} (writer : w ∈ ws) (appended : Writer.append w a s = (.ok (), t))
      (more : Writes ws f t u)
    : Writes ws (.leaf a f) s u
  | array {ws c contained inner items f s t u v w} (writer : .position c ∈ ws)
      (opened : BodyCursor.openContainer c .array contained s = (.ok inner, t))
      (filled : Writes [.position inner] items t u)
      (closed : c.closeContainer inner u = (.ok (), v))
      (more : Writes ws f v w)
    : Writes ws (.array items f) s w

/-- Whether a writer writes at a site. -/
def State.HasWriter (s : State) (e : Site) : Writer → Prop
  | .message m => ∃ r, m.raw = some r ∧ e = .top r
  | .position c => s.WritesAt c e

namespace State

variable {s t : State} {e : Site} {a : Body}

theorem Touched.writesAt {d : Site} {c : BodyCursor} (done : Touched d s t)
    (writer : s.WritesAt c e)
    : t.WritesAt c e := by
  obtain ⟨q, place, old, site⟩ := writer
  refine ⟨q, place, Nat.lt_of_lt_of_le old done.count, ?_⟩
  rw [site_congr (done.target q old), site]

theorem Touched.hasWriters {d : Site} {ws : List Writer} (done : Touched d s t)
    (writers : ∀ w ∈ ws, s.HasWriter e w)
    : ∀ w ∈ ws, t.HasWriter e w := by
  intro w member
  have writer := writers w member
  cases w with
  | message m => exact writer
  | position c => exact done.writesAt writer

end State

/-- Writing a forest leaves its values at the site of its writers, by induction on the calls. -/
theorem Writes.wrote {ws : List Writer} {f : Forest} {s t : State} {e : Site}
    (writes : Writes ws f s t) (unplanned : s.Unplanned) (has : s.HasSite e)
    (writers : ∀ w ∈ ws, s.HasWriter e w)
    : f.fits = true ∧ Wrote e f.body s t := by
  induction writes generalizing e with
  | done => exact ⟨rfl, .refl e _⟩
  | @position ws m c f s t u writer made _ ih =>
      obtain ⟨r, raw, rfl⟩ := writers _ writer
      have same := Message.cursor_eq unplanned raw
      rw [made] at same
      obtain ⟨rfl, rfl⟩ : c = ⟨some ⟨s.cursorCount⟩⟩
          ∧ t = (s.newBodyCursor { target := some r, rest := (s.message r).body }).2 := by
        simpa using same
      have start := wrote_newBodyCursor has
        { target := some r, rest := (s.message r).body }
      refine (ih unplanned (has.mono start.count) ?_).imp_right start.trans
      intro w member
      rcases List.mem_cons.1 member with rfl | old
      · refine ⟨⟨s.cursorCount⟩, rfl, s.lt_cursorCount_newBodyCursor _, ?_⟩
        rw [site, bodyCursor_newBodyCursor_self]
      · exact start.hasWriters writers w old
  | @leaf ws w a f s t u writer appended _ ih =>
      have first : a.fits = true ∧ Wrote e (.one a.code a.scalar) s t := by
        have here := writers w writer
        cases w with
        | message m =>
            obtain ⟨r, raw, rfl⟩ := here
            exact Message.append_ok raw appended
        | position c =>
            obtain ⟨q, place, old, rfl⟩ := here
            obtain rfl := BodyCursor.eq_of_raw place
            exact BodyCursor.append_ok old appended
      have others := ih (first.2.unplanned unplanned) (has.mono first.2.count)
        (first.2.hasWriters writers)
      refine ⟨?_, first.2.trans others.2⟩
      rw [Forest.fits, first.1, others.1]
      rfl
  | @array ws c contained inner items f s t u v w writer opened _ closed _ ihItems ihRest =>
      obtain ⟨q, place, old, rfl⟩ := writers _ writer
      obtain rfl := BodyCursor.eq_of_raw place
      obtain ⟨rfl, made⟩ := BodyCursor.openContainer_ok old opened
      have new : s.cursorCount < t.cursorCount := made ▸ s.lt_cursorCount_newBodyCursor _
      have unplannedInside : t.Unplanned := by
        rw [made]
        exact unplanned
      have inside := ihItems (e := .inside ⟨s.cursorCount⟩) unplannedInside new (by
        intro w member
        obtain rfl := List.mem_singleton.1 member
        refine ⟨⟨s.cursorCount⟩, rfl, new, ?_⟩
        rw [made, site, bodyCursor_newBodyCursor_self])
      have box := BodyCursor.wrote_box old opened inside.2 closed
      have others := ihRest (box.unplanned unplanned) (has.mono box.count)
        (box.hasWriters writers)
      refine ⟨?_, box.trans others.2⟩
      rw [Forest.fits, inside.1, others.1]
      rfl

-----------------------------------------------------------------------------------------
-- Reading
-----------------------------------------------------------------------------------------

/-- Reads what comes next by its type, to the end, and enters every array; takes at most `n` values
in a row and at most `n` arrays in one another.
-/
def BodyCursor.walk : Nat → BodyCursor → State → Attempt BusError Forest
  | 0, _, s => (.ok .empty, s)
  | n + 1, c, s =>
      match c.currentType s with
      | (none, s) => (.ok .empty, s)
      | (some .array, s) =>
          (c.readArray s).andThen fun inner s =>
            (walk n inner s).andThen fun items s =>
              (walk n c s).andThen fun rest s => (.ok (.array items rest), s)
      | (some _, s) =>
          (c.read s).andThen fun a s =>
            (walk n c s).andThen fun rest s => (.ok (.leaf a rest), s)

namespace BodyCursor

variable {s t u v : State} {r q : Ref Native.BodyCursor} {c inner : BodyCursor} {n : Nat}

theorem walk_leaf {k : ArgumentType} {a : Argument} {rest : Forest} (basic : k.isBasic = true)
    (told : c.currentType s = (some k, s)) (found : c.read s = (.ok a, t))
    (more : c.walk n t = (.ok rest, u))
    : c.walk (n + 1) s = (.ok (.leaf a rest), u) := by
  have notArray : k ≠ .array := by
    rintro rfl
    exact Bool.noConfusion basic
  rw [walk, told]
  split
  · next same => simp at same
  · next same => simp_all
  · next same =>
      obtain rfl := (Prod.mk.inj same).2
      simp only [found, Attempt.andThen_ok, more]

theorem walk_array {items rest : Forest} (told : c.currentType s = (some .array, s))
    (entered : c.readArray s = (.ok inner, t)) (inside : inner.walk n t = (.ok items, u))
    (more : c.walk n u = (.ok rest, v))
    : c.walk (n + 1) s = (.ok (.array items rest), v) := by
  rw [walk, told]
  simp only [entered, Attempt.andThen_ok, inside, more]

/-- A walk over the body of a forest finds the forest, by induction on it, and comes to the end. -/
theorem walk_body (f : Forest) (fit : f.fits = true) (unplanned : s.Unplanned)
    (old : r.index < s.cursorCount) (here : (s.bodyCursor r).rest = f.body) (enough : f.size < n)
    : ∃ t,
        BodyCursor.walk n ⟨some r⟩ s = (.ok f, t)
        ∧ ReadAt r s t
        ∧ (t.bodyCursor r).rest = .empty := by
  induction f generalizing s r n with
  | empty =>
      obtain ⟨n, rfl⟩ := Nat.exists_eq_succ_of_ne_zero (Nat.ne_zero_of_lt enough)
      have told := currentType_eq unplanned here (Forest.wellCoded_body .empty)
      refine ⟨s, ?_, .refl r s, here⟩
      rw [walk, told]
      rfl
  | leaf a rest ih =>
      obtain ⟨n, rfl⟩ := Nat.exists_eq_succ_of_ne_zero (Nat.ne_zero_of_lt enough)
      simp only [Forest.fits, Bool.and_eq_true] at fit
      have coded := Forest.wellCoded_body (.leaf a rest)
      have told := currentType_eq unplanned here coded
      rw [Body.toldType_of_code? (t := a.type) rfl rfl] at told
      have found := read_basic unplanned here coded a.isBasic_type (a.ofSlot?_scalar fit.1)
      have moved : ReadAt r s (s.moveTo r rest.body) :=
        .moveTo old (here ▸ .pastScalar (.here _))
      obtain ⟨t, more, done, ended⟩ := ih fit.2 (moved.unplanned unplanned)
        (Nat.lt_of_lt_of_le old moved.count) (s.rest_moveTo r _) (Nat.lt_of_succ_lt_succ enough)
      exact ⟨t, walk_leaf a.isBasic_type told found more, moved.trans done, ended⟩
  | array items rest ihItems ihRest =>
      obtain ⟨n, rfl⟩ := Nat.exists_eq_succ_of_ne_zero (Nat.ne_zero_of_lt enough)
      simp only [Forest.fits, Bool.and_eq_true] at fit
      simp only [Forest.size] at enough
      have coded := Forest.wellCoded_body (.array items rest)
      have told := currentType_eq unplanned here coded
      rw [Body.toldType_of_code? (t := .array) rfl rfl] at told
      have entered := readArray_container unplanned here
      have moved : ReadAt r s (s.moveTo r rest.body) :=
        .moveTo old (here ▸ .pastContainer (.here _))
      have count := s.cursorCount_moveTo rest.body old
      have made := moved.newBodyCursor { rest := items.body }
      have new := (s.moveTo r rest.body).lt_cursorCount_newBodyCursor { rest := items.body }
      have stands := (s.moveTo r rest.body).bodyCursor_newBodyCursor_self { rest := items.body }
      rw [count] at entered new stands
      obtain ⟨t, inside, doneInside, _⟩ := ihItems (r := ⟨s.cursorCount⟩) (n := n) fit.1
        (made.unplanned unplanned) new (congrArg Native.BodyCursor.rest stands) (by omega)
      have past := made.aside doneInside (Nat.le_refl _)
      have apart : r ≠ ⟨s.cursorCount⟩ := by
        rintro rfl
        exact Nat.lt_irrefl _ old
      have hereNow : (t.bodyCursor r).rest = rest.body := by
        rw [doneInside.others r (Nat.lt_trans old new) apart]
        exact rest_entered old _
      obtain ⟨u, more, done, ended⟩ := ihRest (n := n) fit.2 (past.unplanned unplanned)
        (Nat.lt_of_lt_of_le old past.count) hereNow (by omega)
      exact ⟨u, walk_array told entered inside more, past.trans done, ended⟩

end BodyCursor

-----------------------------------------------------------------------------------------
-- Both
-----------------------------------------------------------------------------------------

/-- A new message is about its method and nothing else. -/
theorem Message.methodCall_eq {destination path interface method : String} {m : Message}
    {s t : State} (made : methodCall destination path interface method s = (.ok m, t))
    : ∃ r,
        m.raw = some r
        ∧ t.message r = .ofMethod method
        ∧ (s.Unplanned → t.Unplanned) := by
  rw [methodCall, makeMessage] at made
  split at made
  · simp at made
  · cases refused : s.world.planned.noMessage with
    | true => simp [refused] at made
    | false =>
        simp only [refused, Bool.false_eq_true, if_false, Prod.mk.injEq, Except.ok.injEq] at made
        obtain ⟨rfl, rfl⟩ := made
        exact ⟨_, rfl, s.world.messages.get_alloc_self (.ofMethod method), id⟩

/-- A new message has no values. -/
theorem Message.methodCall_ok {destination path interface method : String} {m : Message}
    {s t : State} (made : methodCall destination path interface method s = (.ok m, t))
    : ∃ r, m.raw = some r ∧ (t.message r).body = .empty ∧ (s.Unplanned → t.Unplanned) := by
  obtain ⟨r, raw, blank, keeps⟩ := methodCall_eq made
  exact ⟨r, raw, congrArg Native.Message.body blank, keeps⟩

/-- What was written to a new message, nested arrays of basic values of any types, is found again by
a walk of a new reader, which then stands at the end.
-/
theorem written_forest_reads_back {destination path interface method : String} {m : Message}
    {f : Forest} {s t u : State} {n : Nat} (unplanned : s.Unplanned)
    (made : Message.methodCall destination path interface method s = (.ok m, t))
    (written : Writes [.message m] f t u) (enough : f.size < n)
    : ∃ c v w,
        m.cursor u = (.ok c, v)
        ∧ c.walk n v = (.ok f, w)
        ∧ (c.read w).1 = .error (.read '\x00') := by
  obtain ⟨r, raw, blank, keeps⟩ := Message.methodCall_ok made
  have writers : ∀ w ∈ [Writer.message m], t.HasWriter (.top r) w := by
    intro w member
    obtain rfl := List.mem_singleton.1 member
    exact ⟨r, raw, rfl⟩
  obtain ⟨fit, wrote⟩ := written.wrote (e := .top r) (keeps unplanned) trivial writers
  have body : (u.message r).body = f.body := by
    have all := wrote.written
    rw [State.written, State.written, blank] at all
    exact all
  obtain ⟨q, v, fresh, start, old, here⟩ :=
    Message.cursor_stands (wrote.unplanned (keeps unplanned)) raw
  have unplannedRead := start.unplanned (wrote.unplanned (keeps unplanned))
  obtain ⟨w, walked, done, ended⟩ :=
    BodyCursor.walk_body f fit unplannedRead old (here.trans body) enough
  refine ⟨⟨some q⟩, v, w, fresh, walked, ?_⟩
  rw [BodyCursor.read_eq (done.unplanned unplannedRead) ended rfl]
  rfl

/-- An integer and an array that holds a text and an empty array. -/
def sampleForest : Forest :=
  .leaf (.int32 5) (.array (.leaf (.string "a") (.array .empty .empty)) .empty)

/-- A message to write it to. -/
def sampleMessage : Message :=
  { raw := some ⟨0⟩, own := true }

/-- The state in which that message was made. -/
def sampleMade : State :=
  (Message.methodCall "d" "/p" "i.f" "m" {}).2

theorem sampleForest_written
    : ∃ u, Writes [.message sampleMessage] sampleForest sampleMade u :=
  ⟨_,
    .leaf (w := .message sampleMessage) (List.mem_singleton_self _) rfl
      (.position (m := sampleMessage) (List.mem_singleton_self _) rfl
        (.array (List.mem_cons_self ..)
          (show BodyCursor.openContainer _ .array (some "s") _ = _ from rfl)
          (.leaf (List.mem_singleton_self _) rfl
            (.array (List.mem_singleton_self _)
              (show BodyCursor.openContainer _ .array (some "s") _ = _ from rfl)
              .done rfl .done))
          rfl .done))⟩

theorem sampleForest_reads_back
    : ∃ c u v w,
        sampleMessage.cursor u = (.ok c, v)
        ∧ c.walk 5 v = (.ok sampleForest, w)
        ∧ (c.read w).1 = .error (.read '\x00') := by
  obtain ⟨u, written⟩ := sampleForest_written
  have unplanned : State.Unplanned {} := rfl
  have made : Message.methodCall "d" "/p" "i.f" "m" {} = (.ok sampleMessage, sampleMade) := rfl
  obtain ⟨c, v, w, read⟩ := written_forest_reads_back (n := 5) unplanned made written (by decide)
  exact ⟨c, u, v, w, read⟩

end Custody
