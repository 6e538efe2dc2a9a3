import Custody.Proofs.RoundTrip.Blobs
import Custody.Proofs.RoundTrip.Forests
import Custody.Proofs.Writing.Signing

/-! What is set out to be written arrives as it was set out: basic values and containers of every kind,
nested to any depth. A container is one value of its parent once it is closed, and until then neither the
parent nor the message shows anything of it.
-/

namespace Custody

open State

/-- Values to be written, in order. A container stands with the signature that it is opened with; a block
is an array of bytes that is written in one piece.
-/
inductive Draft
  | empty
  | basic (value : Argument) (rest : Draft)
  | block (bytes : List UInt8) (rest : Draft)
  | container (type : ArgumentType) (contained : Option String) (items rest : Draft)
deriving DecidableEq

namespace Draft

/-- The values as a body holds them. -/
def body : Draft → Body
  | empty => .empty
  | basic a rest => .scalar a.code a.scalar rest.body
  | block bytes rest => .container 'a' (.one 'y' (.bytes bytes)) rest.body
  | container k _ items rest => .container k.code items.body rest.body

/-- The signature that the values are written under: a letter for a basic value, and for a container what
its type makes of the signature that it is opened with, or of that of its items.
-/
def signature : Draft → String
  | empty => ""
  | basic a rest => a.type.letter ++ rest.signature
  | block _ rest => "ay" ++ rest.signature
  | container k contained items rest =>
      k.enclose (contained.getD "") items.signature ++ rest.signature

theorem wellCoded_body (d : Draft)
    : d.body.wellCoded = true := by
  induction d with
  | empty => rfl
  | basic a rest ih => simp [body, Body.wellCoded, Argument.code, ih]
  | block bytes rest ih =>
      simp only [body, Body.wellCoded, ih]
      rfl
  | container k contained items rest ihItems ihRest =>
      simp [body, Body.wellCoded, ihItems, ihRest]

/-- Writing a draft through the given writers, where every call succeeds, with the states after each of
the calls in order. Each value goes through any writer there is, a writer of a message can make more of
them, and a container is filled through the position that was opened for it.
-/
inductive Written : List Writer → Draft → State → List State → State → Prop
  | done {ws s} : Written ws .empty s [] s
  | position {ws m c d s t states u} (writer : .message m ∈ ws)
      (made : Message.cursor m s = (.ok c, t))
      (more : Written (.position c :: ws) d t states u)
    : Written ws d s (t :: states) u
  | basic {ws w a d s t states u} (writer : w ∈ ws) (appended : Writer.append w a s = (.ok (), t))
      (more : Written ws d t states u)
    : Written ws (.basic a d) s (t :: states) u
  | buffer {ws c b k bytes d s t states u} (writer : .position c ∈ ws)
      (live : Handle.raw b = some k) (holds : (State.buffer s k).bytes = bytes)
      (appended : BodyCursor.appendBuffer c b s = (.ok (), t))
      (more : Written ws d t states u)
    : Written ws (.block bytes d) s (t :: states) u
  | block {ws c inner slice bytes d s t u v states w} (writer : .position c ∈ ws)
      (shows : Slice.bytes slice = bytes)
      (opened : BodyCursor.openContainer c .array (some "y") s = (.ok inner, t))
      (filled : inner.appendFixed .byte slice t = (.ok (), u))
      (closed : c.closeContainer inner u = (.ok (), v))
      (more : Written ws d v states w)
    : Written ws (.block bytes d) s (t :: u :: v :: states) w
  | container {ws c k contained inner items d s t inside u v states w} (writer : .position c ∈ ws)
      (opened : BodyCursor.openContainer c k contained s = (.ok inner, t))
      (filled : Written [.position inner] items t inside u)
      (closed : c.closeContainer inner u = (.ok (), v))
      (more : Written ws d v states w)
    : Written ws (.container k contained items d) s (t :: inside ++ v :: states) w

end Draft

-----------------------------------------------------------------------------------------
-- Single calls
-----------------------------------------------------------------------------------------

variable {s t u v : State} {e : Site} {q : Ref Native.BodyCursor} {bytes : List UInt8}

theorem State.HasWriter.signed_append {w : Writer} {a : Argument} (writer : s.HasWriter e w)
    (appended : w.append a s = (.ok (), t))
    : Signed e (.one a.code a.scalar) a.type.letter s t := by
  cases w with
  | message m =>
      obtain ⟨r, raw, rfl⟩ := writer
      obtain ⟨-, rfl⟩ := Message.append_eq raw appended
      exact signed_pushMessage s r _ a.type.fits_letter
  | position c =>
      obtain ⟨q, place, old, rfl⟩ := writer
      obtain rfl := BodyCursor.eq_of_raw place
      obtain ⟨-, rfl⟩ := BodyCursor.append_eq old appended
      exact signed_push old _ a.type.fits_letter

/-- A block of bytes in an array is not signed for: the array has its signature from the start. -/
theorem BodyCursor.signed_appendFixed {k : ArgumentType} {slice : Slice}
    (old : q.index < s.cursorCount)
    (filled : BodyCursor.appendFixed ⟨some q⟩ k slice s = (.ok (), t))
    : Signed (.inside q) (.one 'y' (.bytes slice.bytes)) "" s t where
  toChangedAt := by
    rw [appendFixed_eq old filled]
    exact changed_setBodyCursor old rfl rfl rfl
  written := (appendFixed_ok old filled).written
  fits := rfl
  signed _ := by
    rw [appendFixed_eq old filled, String.append_empty, State.signed,
      bodyCursor_setBodyCursor_self]
    rfl

/-- A block of bytes that was opened, given in one piece, and closed. -/
theorem BodyCursor.signed_block {inner : BodyCursor} {slice : Slice}
    (old : q.index < s.cursorCount)
    (opened : BodyCursor.openContainer ⟨some q⟩ .array (some "y") s = (.ok inner, t))
    (filled : inner.appendFixed .byte slice t = (.ok (), u))
    (closed : BodyCursor.closeContainer ⟨some q⟩ inner u = (.ok (), v))
    : ChangedAt (.inside ⟨s.cursorCount⟩) t u
      ∧ Signed (s.site q) (.box 'a' (.one 'y' (.bytes slice.bytes))) "ay" s v := by
  obtain ⟨rfl, -⟩ := openContainer_ok old opened
  have new := lt_cursorCount_openContainer old opened
  have block := signed_appendFixed new filled
  exact ⟨block.toChangedAt, signed_box old opened block closed⟩

/-- One call, and those after it. -/
theorem State.Signed.andThen {a b : Body} {x y : String} {states : List State}
    (first : Signed e a x s t) (later : Signed e b y t u ∧ ∀ v ∈ states, ChangedAt e t v)
    : Signed e (a ++ b) (x ++ y) s u ∧ ∀ v ∈ t :: states, ChangedAt e s v := by
  refine ⟨first.trans later.1, ?_⟩
  intro v passed
  rcases List.mem_cons.1 passed with rfl | after
  · exact first.toChangedAt
  · exact first.toChangedAt.trans (later.2 v after)

/-- A container that was opened is filled through its own position alone. -/
theorem BodyCursor.hasWriters_inner {k : ArgumentType} {contained : Option String}
    {inner : BodyCursor} (old : q.index < s.cursorCount)
    (opened : BodyCursor.openContainer ⟨some q⟩ k contained s = (.ok inner, t))
    : t.HasSite (.inside ⟨s.cursorCount⟩)
      ∧ ∀ w ∈ [Writer.position inner], t.HasWriter (.inside ⟨s.cursorCount⟩) w := by
  obtain ⟨rfl, rfl⟩ := openContainer_ok old opened
  have new := s.lt_cursorCount_newBodyCursor { code := k.code, contained := contained.getD "" }
  refine ⟨new, ?_⟩
  intro w member
  obtain rfl := List.mem_singleton.1 member
  refine ⟨_, rfl, new, ?_⟩
  rw [State.site, bodyCursor_newBodyCursor_self]

namespace Draft

variable {ws : List Writer} {d : Draft} {states : List State}

-----------------------------------------------------------------------------------------
-- Whole drafts
-----------------------------------------------------------------------------------------

/-- Writing a draft leaves its values at the site of its writers with their signature, and changes
nothing else on the way; by induction on the calls.
-/
theorem Written.signed (written : Written ws d s states t) (has : s.HasSite e)
    (writers : ∀ w ∈ ws, s.HasWriter e w)
    : Signed e d.body d.signature s t ∧ ∀ u ∈ states, ChangedAt e s u := by
  induction written generalizing e with
  | done => exact ⟨.refl e _, by simp⟩
  | @position ws m c d s t states u writer made _ ih =>
      obtain ⟨r, raw, rfl⟩ := writers _ writer
      obtain ⟨rfl, rfl⟩ := Message.cursor_ok raw made
      have start := signed_newBodyCursor has { target := some r, rest := (s.message r).body }
      have placed := start.hasWriters writers
      rw [← String.empty_append (s := d.signature)]
      refine start.andThen (ih (has.mono start.count) ?_)
      intro w member
      rcases List.mem_cons.1 member with rfl | old
      · refine ⟨⟨s.cursorCount⟩, rfl, s.lt_cursorCount_newBodyCursor _, ?_⟩
        rw [site, bodyCursor_newBodyCursor_self]
      · exact placed w old
  | @basic ws w a d s t states u writer appended _ ih =>
      have first := (writers w writer).signed_append appended
      exact first.andThen (ih (has.mono first.count) (first.hasWriters writers))
  | @buffer ws c b k bytes d s t states u writer live holds appended _ ih =>
      obtain ⟨q, place, old, rfl⟩ := writers _ writer
      obtain rfl := BodyCursor.eq_of_raw place
      obtain ⟨inner, _, _, opened, filled, closed⟩ := BodyCursor.appendBuffer_ok live appended
      have first := (BodyCursor.signed_block old opened filled closed).2
      obtain ⟨-, rfl⟩ := BodyCursor.openContainer_ok old opened
      rw [← holds]
      exact first.andThen (ih (has.mono first.count) (first.hasWriters writers))
  | @block ws c inner slice bytes d s t u v states w writer shows opened filled closed _ ih =>
      obtain ⟨q, place, old, rfl⟩ := writers _ writer
      obtain rfl := BodyCursor.eq_of_raw place
      obtain ⟨block, first⟩ := BodyCursor.signed_block old opened filled closed
      obtain ⟨box, others⟩ := first.andThen (ih (has.mono first.count) (first.hasWriters writers))
      have empty := ChangedAt.refl (.inside ⟨s.cursorCount⟩) t
      rw [← shows]
      refine ⟨box, ?_⟩
      simp only [List.forall_mem_cons] at others ⊢
      exact ⟨(BodyCursor.signed_open has old opened empty).toChangedAt,
        (BodyCursor.signed_open has old opened block).toChangedAt, others⟩
  | @container ws c k contained inner items d s t inside u v states w writer opened _ closed _
      ihItems ihRest =>
      obtain ⟨q, place, old, rfl⟩ := writers _ writer
      obtain rfl := BodyCursor.eq_of_raw place
      obtain ⟨made, writer⟩ := BodyCursor.hasWriters_inner old opened
      obtain ⟨filled, filling⟩ := ihItems made writer
      have first := BodyCursor.signed_box old opened filled closed
      obtain ⟨box, others⟩ :=
        first.andThen (ihRest (has.mono first.count) (first.hasWriters writers))
      refine ⟨box, ?_⟩
      intro x passed
      rcases List.mem_append.1 passed with within | after
      · refine (BodyCursor.signed_open has old opened ?_).toChangedAt
        rcases List.mem_cons.1 within with rfl | during
        · exact .refl _ _
        · exact filling x during
      · exact others x after

-----------------------------------------------------------------------------------------
-- One value
-----------------------------------------------------------------------------------------

theorem body_of_length {d : Draft} (none : d.body.length = 0)
    : d = .empty := by
  cases d with
  | empty => rfl
  | basic | block | container => simp [body, Body.length] at none

/-- Through one position no calls are made for no values. -/
theorem Written.states_nil {c : BodyCursor} (written : Written [.position c] .empty s states t)
    : states = [] := by
  cases written with
  | done => rfl
  | position writer => simp at writer

/-- Before the last call for one value, nothing changes but inside a container that was not there. -/
theorem Written.changed_inside {c : BodyCursor} (written : Written [.position c] d s states t)
    (single : d.body.length = 1) (writer : s.WritesAt c e)
    : ∀ u ∈ states.dropLast, ChangedAt (.inside ⟨s.cursorCount⟩) s u := by
  obtain ⟨q, place, old, -⟩ := writer
  obtain rfl := BodyCursor.eq_of_raw place
  cases written with
  | done => simp [body, Body.length] at single
  | position writer => simp at writer
  | basic _ _ more | buffer _ _ _ _ more =>
      obtain rfl := body_of_length (Nat.succ.inj single)
      obtain rfl := more.states_nil
      simp
  | block writer _ opened filled closed more =>
      obtain rfl := body_of_length (Nat.succ.inj single)
      obtain rfl := more.states_nil
      obtain rfl := Writer.position.inj (List.mem_singleton.1 writer)
      obtain ⟨block, -⟩ := BodyCursor.signed_block old opened filled closed
      intro u passed
      refine BodyCursor.changed_inside old opened ?_
      simp only [List.dropLast_cons_cons, List.dropLast_singleton, List.mem_cons,
        List.not_mem_nil, or_false] at passed
      rcases passed with rfl | rfl
      · exact .refl _ _
      · exact block
  | container writer opened filled _ more =>
      obtain rfl := body_of_length (Nat.succ.inj single)
      obtain rfl := more.states_nil
      obtain rfl := Writer.position.inj (List.mem_singleton.1 writer)
      obtain ⟨made, inner⟩ := BodyCursor.hasWriters_inner old opened
      obtain ⟨-, filling⟩ := filled.signed made inner
      intro u passed
      refine BodyCursor.changed_inside old opened ?_
      rw [List.dropLast_concat] at passed
      rcases List.mem_cons.1 passed with rfl | within
      · exact .refl _ _
      · exact filling u within

end Draft

/-- The signature of a message, where none is planned. -/
theorem Message.signature_eq {m : Message} {r : Ref Native.Message} (unplanned : s.Unplanned)
    (raw : m.raw = some r)
    : m.signature s = (.ok (s.message r).signature, s) := by
  have none : s.world.planned.messageSignature = none := by rw [unplanned]
  rw [signature, raw, State.live, Attempt.andThen_ok, State.messageSignature, none]

/-- A value that is written at the top of a message, a container with whatever is nested in it, is one
more value at the end of the body, with its signature at the end of the message's; up to the last call
for it, which closes the outermost container, the message is as it was. The signature that a message
keeps never holds a NUL.
-/
theorem nested_value_arrives_whole {m : Message} {r : Ref Native.Message} {c : BodyCursor}
    {d : Draft} {states : List State} (raw : m.raw = some r) (unplanned : s.Unplanned)
    (kept : ZeroTerminated.fits (s.message r).signature = true) (writer : s.WritesAt c (.top r))
    (single : d.body.length = 1) (written : Draft.Written [.position c] d s states t)
    : ∃ text,
        m.signature s = (.ok text, s)
        ∧ m.signature t = (.ok (text ++ d.signature), t)
        ∧ (t.message r).body = (s.message r).body ++ d.body
        ∧ ∀ u ∈ states.dropLast,
            m.signature u = (.ok text, u) ∧ (u.message r).body = (s.message r).body := by
  have writers : ∀ w ∈ [Writer.position c], s.HasWriter (.top r) w :=
    List.forall_mem_singleton.2 writer
  obtain ⟨done, -⟩ := written.signed (e := .top r) trivial writers
  have signed : (t.message r).signature = (s.message r).signature ++ d.signature :=
    done.signed kept
  refine ⟨_, Message.signature_eq unplanned raw, ?_, done.written, ?_⟩
  · rw [Message.signature_eq (done.unplanned unplanned) raw, signed]
  · intro u passed
    have changed := written.changed_inside single writer u passed
    have text : (u.message r).signature = (s.message r).signature :=
      changed.signatures (.top r) trivial nofun
    rw [Message.signature_eq (changed.unplanned unplanned) raw, text]
    exact ⟨rfl, changed.others (.top r) trivial nofun⟩

/-- A structure of a byte, an array without texts and a variant. -/
def sampleDraft : Draft :=
  .container .struct none
    (.basic (.byte 7)
      (.container .array (some "s") .empty
        (.container .variant (some "s") (.basic (.string "x") .empty) .empty)))
    .empty

theorem sampleDraft_written
    : ∃ states t, Draft.Written [.position blobWriter] sampleDraft blobState states t :=
  ⟨_, _,
    .container (List.mem_singleton_self _)
      (show BodyCursor.openContainer _ .struct none _ = _ from rfl)
      (.basic (List.mem_singleton_self _) rfl
        (.container (List.mem_singleton_self _)
          (show BodyCursor.openContainer _ .array (some "s") _ = _ from rfl) .done rfl
          (.container (List.mem_singleton_self _)
            (show BodyCursor.openContainer _ .variant (some "s") _ = _ from rfl)
            (.basic (List.mem_singleton_self _) rfl .done) rfl .done)))
      rfl .done⟩

theorem sampleDraft_arrives_whole
    : ∃ (states : List State) (t : State) (text : String),
        blobMessage.signature blobState = (.ok text, blobState)
        ∧ blobMessage.signature t = (.ok (text ++ "(yasv)"), t)
        ∧ (t.message ⟨0⟩).body = (blobState.message ⟨0⟩).body ++ sampleDraft.body
        ∧ ∀ u ∈ states.dropLast,
            blobMessage.signature u = (.ok text, u)
            ∧ (u.message ⟨0⟩).body = (blobState.message ⟨0⟩).body := by
  obtain ⟨states, t, written⟩ := sampleDraft_written
  obtain ⟨text, arrived⟩ :=
    nested_value_arrives_whole (show blobMessage.raw = some ⟨0⟩ from rfl)
      blobState_unplanned rfl blobWriter_writesAt rfl written
  exact ⟨states, t, text, arrived⟩

end Custody
