import Custody.Proofs.RoundTrip.ByteArrays
import Custody.Proofs.Writing.Refusals

/-! Appending values in a row. To the message at once, to the message one by one, or one by one through any
positions at its top: the values before the first that is refused are in the message, with their letters in
its signature, and no more.
-/

namespace Custody

open State

/-- The number of values before the first that cannot be handed over. -/
def Argument.fitting (args : List Argument) : Nat :=
  args.findIdx fun a => !a.fits

/-- The number of values that a message takes before one is refused. -/
def State.takes (s : State) (r : Ref Native.Message) (args : List Argument) : Nat :=
  if (s.message r).failNext then 0 else Argument.fitting args

/-- The answer when the value at a place of a row is refused: for a NUL in it, or else with the error of its
letter. At the end of the row no value is refused.
-/
def Argument.refusal (error : Char → BusError) (args : List Argument) (n : Nat)
    : Except BusError Unit :=
  args[n]?.elim (.ok ()) fun a => .error (if a.fits then error a.code else .interiorNul)

/-- Values were appended to a message: they are at the end of its body, and their letters at the end of its
signature.
-/
structure Message.Extends (m : Message) (r : Ref Native.Message) (args : List Argument) (s t : State)
    : Prop where
  body : (t.message r).body = (s.message r).body ++ (Draft.basics args).body
  signature
    : m.signature t = (.ok ((s.message r).signature ++ String.ofList (args.map Argument.code)), t)

/-- A position at the top of a message where no failure waits. -/
def State.Ready (s : State) (r : Ref Native.Message) (c : BodyCursor) : Prop :=
  ∃ q,
    c.raw = some q
    ∧ q.index < s.cursorCount
    ∧ s.site q = .top r
    ∧ (s.bodyCursor q).failNext = false

/-- Appending values one by one, each through any of some positions, up to the first that is refused; tells
how many were appended. New positions of the message can be made on the way.
-/
inductive BodyCursor.AppendsEach (m : Message)
    : List BodyCursor → List Argument → State → Nat → Attempt BusError Unit → Prop
  | done {cs s} : AppendsEach m cs [] s 0 (.ok (), s)
  | taken {cs args c s t n done} (made : m.cursor s = (.ok c, t))
      (more : AppendsEach m (c :: cs) args t n done)
    : AppendsEach m cs args s n done
  | refused {cs a rest c e s t} (member : c ∈ cs) (refused : c.append a s = (.error e, t))
    : AppendsEach m cs (a :: rest) s 0 (.error e, t)
  | appended {cs a rest c s t n done} (member : c ∈ cs) (appended : c.append a s = (.ok (), t))
      (more : AppendsEach m cs rest t n done)
    : AppendsEach m cs (a :: rest) s (n + 1) done

/-- Appends one more value, if none was refused. -/
def Message.goOn (m : Message) (sofar : Attempt BusError Unit) (a : Argument)
    : Attempt BusError Unit :=
  sofar.andThen fun _ s => m.append a s

/-- Appends values one by one, and stops at the first that is refused. -/
def Message.appendOneByOne (m : Message) (args : List Argument) (s : State)
    : Attempt BusError Unit :=
  args.foldl m.goOn (.ok (), s)

variable {s t : State} {m : Message} {r : Ref Native.Message} {q : Ref Native.BodyCursor}
variable {a : Argument} {args rest : List Argument} {c : BodyCursor} {cs : List BodyCursor} {n : Nat}

/-- The signature of basic values is their letters. -/
theorem Draft.signature_basics (args : List Argument)
    : (Draft.basics args).signature = String.ofList (args.map Argument.code) := by
  induction args with
  | nil => rfl
  | cons a rest ih =>
      have step : (Draft.basics (a :: rest)).signature
          = a.type.letter ++ (Draft.basics rest).signature := rfl
      rw [step, ih, List.map_cons]
      apply String.toList_inj.1
      simp [ArgumentType.letter, Char.toString, Argument.code]

namespace State

/-- Values were appended to a message, one after the other. -/
abbrev Appended (r : Ref Native.Message) (args : List Argument) (s t : State) : Prop :=
  Signed (.top r) (Draft.basics args).body (Draft.basics args).signature s t

/-- The message after one more value. -/
def appendTo (s : State) (r : Ref Native.Message) (a : Argument) : State :=
  s.setMessage r ((s.message r).push (.one a.code a.scalar) a.type.letter)

theorem appended_nil (r : Ref Native.Message) (s : State)
    : Appended r [] s s :=
  .refl _ s

theorem appended_cons (later : Appended r rest (s.appendTo r a) t)
    : Appended r (a :: rest) s t :=
  (signed_pushMessage s r (.one a.code a.scalar) a.type.fits_letter).trans later

/-- What is written at the top of a message goes to it. -/
theorem push_of_top (top : s.site q = .top r) (a : Argument)
    : s.push q (.one a.code a.scalar) a.type.letter = s.appendTo r a := by
  unfold State.site at top
  cases target : (s.bodyCursor q).target with
  | none => simp [target] at top
  | some m =>
      obtain rfl : m = r := by simpa [target] using top
      rw [push, target]
      rfl

theorem Ready.writesAt (ready : s.Ready r c)
    : s.WritesAt c (.top r) := by
  obtain ⟨q, place, old, top, -⟩ := ready
  exact ⟨q, place, old, top⟩

theorem Ready.newBodyCursor (ready : s.Ready r c) (made : Native.BodyCursor)
    : (s.newBodyCursor made).2.Ready r c := by
  obtain ⟨q, place, old, top, calm⟩ := ready
  have stands := s.bodyCursor_newBodyCursor_of_old made old
  refine ⟨q, place, Nat.lt_trans old (s.lt_cursorCount_newBodyCursor _), ?_, ?_⟩
  · rw [site_congr (congrArg Native.BodyCursor.target stands), top]
  · rw [stands, calm]

theorem failNext_appendTo (s : State) (r : Ref Native.Message) (a : Argument)
    : ((s.appendTo r a).message r).failNext = (s.message r).failNext :=
  s.world.messages.keeps_put (r := r) (f := Native.Message.failNext)
    (a := (s.message r).push (.one a.code a.scalar) a.type.letter) rfl r

end State

-----------------------------------------------------------------------------------------
-- One value
-----------------------------------------------------------------------------------------

namespace Message

/-- A position that is made for a message is ready. -/
theorem ready_cursor (raw : m.raw = some r) (made : m.cursor s = (.ok c, t))
    : t.Ready r c := by
  obtain ⟨rfl, rfl⟩ := Message.cursor_ok raw made
  have stands := s.bodyCursor_newBodyCursor_self { target := some r, rest := (s.message r).body }
  refine ⟨_, rfl, s.lt_cursorCount_newBodyCursor _, ?_, ?_⟩
  · rw [State.site, stands]
  · rw [stands]

theorem append_of_calm (raw : m.raw = some r) (calm : (s.message r).failNext = false)
    : m.append a s = if a.fits then (.ok (), s.appendTo r a) else (.error .interiorNul, s) := by
  rw [append, raw, State.live, Attempt.andThen_ok, writeMessage, calm]
  cases a.fits <;> rfl

/-- A failure that waits is used up, unless the value has a NUL in it. -/
theorem append_of_failing (raw : m.raw = some r) (waits : (s.message r).failNext = true)
    : ∃ t,
        m.append a s
          = (.error (if a.fits then .appendToMessage a.code else .interiorNul), t)
        ∧ Still s t
        ∧ (t.message r).failNext = !a.fits := by
  have answer := answer_append (s := s) raw a
  cases fits : a.fits with
  | false =>
      refine ⟨s, ?_, .refl s, waits⟩
      rw [append, raw, State.live, Attempt.andThen_ok, fits]
      rfl
  | true =>
      rw [fits, waits, if_neg Bool.noConfusion, if_pos rfl] at answer
      have failed : m.append a s = (.error (.appendToMessage a.code), (m.append a s).2) :=
        Prod.ext answer rfl
      refine ⟨_, failed, still_append failed, ?_⟩
      rw [append, raw, State.live, Attempt.andThen_ok, writeMessage, fits, waits]
      exact congrArg Native.Message.failNext (Heap.get_put_self _ r _)

end Message

namespace BodyCursor

theorem append_of_ready (ready : s.Ready r c)
    : c.append a s = if a.fits then (.ok (), s.appendTo r a) else (.error .interiorNul, s) := by
  obtain ⟨q, raw, old, top, calm⟩ := ready
  obtain rfl := eq_of_raw raw
  rw [append, State.live, Attempt.andThen_ok, writeCursor,
    takeCursorFailure_of_calm old calm]
  dsimp only
  rw [push_of_top top]
  cases a.fits <;> rfl

/-- A failure that waits is used up, unless the value has a NUL in it. -/
theorem append_of_failing (old : q.index < s.cursorCount) (waits : (s.bodyCursor q).failNext = true)
    : ∃ t,
        BodyCursor.append ⟨some q⟩ a s
          = (.error (if a.fits then .appendToCursor a.code else .interiorNul), t)
        ∧ Still s t
        ∧ (t.bodyCursor q).failNext = !a.fits := by
  have answer := answer_append (s := s) (q := q) a
  cases fits : a.fits with
  | false =>
      refine ⟨s, ?_, .refl s, waits⟩
      rw [append, State.live, Attempt.andThen_ok, fits]
      rfl
  | true =>
      rw [fits, waits, if_neg Bool.noConfusion, if_pos rfl] at answer
      have failed : BodyCursor.append ⟨some q⟩ a s = (.error (.appendToCursor a.code), _) :=
        Prod.ext answer rfl
      refine ⟨_, failed, still_append old failed, ?_⟩
      rw [append, State.live, Attempt.andThen_ok, writeCursor, takeCursorFailure, fits, waits]
      exact congrArg Native.BodyCursor.failNext (bodyCursor_setBodyCursor_self s q _)

end BodyCursor

-----------------------------------------------------------------------------------------
-- Values in a row
-----------------------------------------------------------------------------------------

theorem Argument.fitting_cons (a : Argument) (rest : List Argument)
    : Argument.fitting (a :: rest) = if a.fits then Argument.fitting rest + 1 else 0 := by
  rw [fitting, List.findIdx_cons]
  cases a.fits <;> rfl

theorem Argument.fits_of_fitting (stop : args[Argument.fitting args]? = some a)
    : a.fits = false := by
  obtain ⟨inside, rfl⟩ := List.getElem?_eq_some_iff.1 stop
  have unfit : (!args[Argument.fitting args].fits) = true := List.findIdx_getElem (w := inside)
  exact Bool.not_eq_true' _ ▸ unfit

/-- A value that cannot be handed over is refused by all alike. -/
theorem Argument.refusal_fitting (error : Char → BusError) (args : List Argument)
    : Argument.refusal error args (Argument.fitting args)
      = args[Argument.fitting args]?.elim (.ok ()) fun _ => .error .interiorNul := by
  rw [refusal]
  cases stop : args[Argument.fitting args]? with
  | none => rfl
  | some a => simp [fits_of_fitting stop]

namespace Message

/-- Appending all values is appending them one by one as long as none is refused, by induction on them. -/
theorem appendAll_eq_oneByOne (m : Message) (args : List Argument) (s : State)
    : m.appendAll args s = m.appendOneByOne args s := by
  have failed (e : BusError) (t : State) (rest : List Argument)
      : rest.foldl (m.goOn) (.error e, t) = (.error e, t) := by
    induction rest with
    | nil => rfl
    | cons a rest ih => rw [List.foldl_cons, goOn, Attempt.andThen_error, ih]
  unfold appendOneByOne
  induction args generalizing s with
  | nil => rfl
  | cons a rest ih =>
      rw [List.foldl_cons, goOn, Attempt.andThen_ok, appendAll]
      cases m.append a s with
      | mk answer t =>
          cases answer with
          | error e => rw [Attempt.andThen_error, failed]
          | ok _ => rw [Attempt.andThen_ok, ih]

/-- Where no failure waits, values are appended up to the first with a NUL in it; by induction on them. -/
theorem appendAll_of_calm (raw : m.raw = some r) (calm : (s.message r).failNext = false)
    : ∃ t,
        m.appendAll args s = (Argument.refusal .appendToMessage args (Argument.fitting args), t)
        ∧ Appended r (args.take (Argument.fitting args)) s t
        ∧ (t.message r).failNext = false := by
  induction args generalizing s with
  | nil => exact ⟨s, rfl, appended_nil r s, calm⟩
  | cons a rest ih =>
      rw [appendAll, append_of_calm raw calm, Argument.fitting_cons]
      cases fits : a.fits with
      | false =>
          refine ⟨s, ?_, appended_nil r s, calm⟩
          simp [Argument.refusal, fits]
      | true =>
          obtain ⟨t, went, later, still⟩ := ih ((s.failNext_appendTo r a).trans calm)
          exact ⟨t, went, appended_cons later, still⟩

/-- With or without a failure that waits, the values are appended that the message takes. -/
theorem appendAll_outcome (raw : m.raw = some r) (args : List Argument)
    : ∃ t,
        m.appendAll args s = (Argument.refusal .appendToMessage args (s.takes r args), t)
        ∧ Appended r (args.take (s.takes r args)) s t
        ∧ (t.message r).failNext = ((s.message r).failNext && args.head?.all fun a => !a.fits) := by
  unfold State.takes
  cases waits : (s.message r).failNext with
  | false =>
      exact appendAll_of_calm raw waits
  | true =>
      cases args with
      | nil => exact ⟨s, rfl, appended_nil r s, waits⟩
      | cons a rest =>
          obtain ⟨t, refused, still, pending⟩ := append_of_failing (a := a) raw waits
          refine ⟨t, ?_, still.nothing trivial, pending⟩
          rw [appendAll, refused]
          rfl

end Message

namespace BodyCursor

namespace AppendsEach

variable {done : Attempt BusError Unit}

/-- Through whichever positions, the values before the one that is refused are appended, and no more; by
induction on the appends.
-/
theorem outcome (run : AppendsEach m cs args s n done) (raw : m.raw = some r)
    (writers : ∀ c ∈ cs, s.WritesAt c (.top r))
    : Appended r (args.take n) s done.2
      ∧ done.1 = Argument.refusal .appendToCursor args n := by
  induction run with
  | done => exact ⟨appended_nil r _, rfl⟩
  | @taken cs args c s t n done made more ih =>
      have ready := Message.ready_cursor raw made
      obtain ⟨-, rfl⟩ := Message.cursor_ok raw made
      have blank := wrote_newBodyCursor (e := .top r) (s := s) trivial
        { target := some r, rest := (s.message r).body }
      obtain ⟨values, answer⟩ := ih (by
        intro c member
        rcases List.mem_cons.1 member with rfl | before
        · exact ready.writesAt
        · exact blank.writesAt (writers c before))
      exact ⟨values.after (.newBodyCursor s _) trivial, answer⟩
  | @refused cs a rest c e s t member refused =>
      obtain ⟨q, place, old, -⟩ := writers c member
      obtain rfl := eq_of_raw place
      have answer := answer_append (s := s) (q := q) a
      refine ⟨(still_append old refused).nothing trivial, ?_⟩
      rw [refused] at answer
      cases fits : a.fits with
      | false => simpa [fits, Argument.refusal] using answer
      | true =>
          cases waits : (s.bodyCursor q).failNext with
          | true => simpa [fits, waits, Argument.refusal] using answer
          | false => simp [fits, waits] at answer
  | @appended cs a rest c s t n done member appended more ih =>
      obtain ⟨q, place, old, top⟩ := writers c member
      obtain rfl := eq_of_raw place
      obtain ⟨-, rfl⟩ := append_eq old appended
      have wrote := wrote_push (s := s) old (.one a.code a.scalar) a.type.letter
      obtain ⟨values, answer⟩ := ih fun c member => wrote.writesAt (writers c member)
      rw [push_of_top top] at values
      exact ⟨appended_cons values, answer⟩

/-- Where no failure waits, only a value with a NUL in it is refused; by induction on the appends. -/
theorem stops (run : AppendsEach m cs args s n done) (raw : m.raw = some r)
    (ready : ∀ c ∈ cs, s.Ready r c)
    : n = Argument.fitting args := by
  induction run with
  | done => rfl
  | @taken cs args c s t n done made more ih =>
      refine ih fun c member => ?_
      have fresh := Message.ready_cursor raw made
      obtain ⟨-, rfl⟩ := Message.cursor_ok raw made
      rcases List.mem_cons.1 member with rfl | before
      · exact fresh
      · exact (ready c before).newBodyCursor _
  | @refused cs a rest c e s t member refused =>
      rw [append_of_ready (ready c member)] at refused
      cases fits : a.fits with
      | true => simp [fits] at refused
      | false => rw [Argument.fitting_cons, fits, if_neg Bool.false_ne_true]
  | @appended cs a rest c s t n done member appended more ih =>
      rw [append_of_ready (ready c member)] at appended
      cases fits : a.fits with
      | false => simp [fits] at appended
      | true =>
          obtain rfl : s.appendTo r a = t := by simpa [fits] using appended
          rw [Argument.fitting_cons, fits, if_pos rfl, ih ready]

/-- One position is enough to go on to the end, or to the first value that is refused. -/
theorem total (member : c ∈ cs) (args : List Argument) (s : State)
    : ∃ n done, AppendsEach m cs args s n done := by
  induction args generalizing s with
  | nil => exact ⟨_, _, .done⟩
  | cons a rest ih =>
      cases went : c.append a s with
      | mk answer t =>
          cases answer with
          | error e => exact ⟨_, _, .refused member went⟩
          | ok _ =>
              obtain ⟨n, done, more⟩ := ih t
              exact ⟨_, _, .appended member went more⟩

end AppendsEach

end BodyCursor

theorem State.Appended.extends (appended : Appended r args s t) (raw : m.raw = some r)
    (unplanned : s.Unplanned) (kept : ZeroTerminated.fits (s.message r).signature = true)
    : m.Extends r args s t := by
  refine ⟨appended.written, ?_⟩
  have signed : (t.message r).signature
      = (s.message r).signature ++ (Draft.basics args).signature := appended.signed kept
  rw [Message.signature_eq (appended.unplanned unplanned) raw, signed, Draft.signature_basics]

/-- Appending values to a message in one call is appending them one by one up to the first that is refused:
for a NUL in it, which leaves the failure pending that waits, or else because of that failure. The values
before it are appended, and no more. Values that are appended through positions of the message, in any mix,
stop in the same way, where a failure waits for the position; and where none waits, they stop at the same
place with the same answer, and leave the same body and signature. No signature holds a NUL to begin with,
in any run of a host (`Host.signaturesFit_run`).
-/
theorem append_paths_agree (raw : m.raw = some r) (unplanned : s.Unplanned)
    (kept : ZeroTerminated.fits (s.message r).signature = true) (args : List Argument)
    : m.appendAll args s = m.appendOneByOne args s
      ∧ (∃ t,
          m.appendAll args s = (Argument.refusal .appendToMessage args (s.takes r args), t)
          ∧ m.Extends r (args.take (s.takes r args)) s t
          ∧ (t.message r).failNext
            = ((s.message r).failNext && args.head?.all fun a => !a.fits))
      ∧ (∀ cs,
          (∀ c ∈ cs, s.WritesAt c (.top r))
          → (cs ≠ [] → ∃ n done, BodyCursor.AppendsEach m cs args s n done)
            ∧ ∀ n answer t,
                BodyCursor.AppendsEach m cs args s n (answer, t)
                → answer = Argument.refusal .appendToCursor args n
                  ∧ m.Extends r (args.take n) s t)
      ∧ (∀ cs,
          (s.message r).failNext = false
          → (∀ c ∈ cs, s.Ready r c)
          → ∀ n answer t,
              BodyCursor.AppendsEach m cs args s n (answer, t)
              → n = s.takes r args
                ∧ answer = (m.appendAll args s).1
                ∧ (t.message r).body = ((m.appendAll args s).2.message r).body
                ∧ (m.signature t).1 = (m.signature (m.appendAll args s).2).1)
      ∧ (∀ q a,
          q.index < s.cursorCount
          → (s.bodyCursor q).failNext = true
          → ∃ t,
              BodyCursor.append ⟨some q⟩ a s
                = (.error (if a.fits then .appendToCursor a.code else .interiorNul), t)
              ∧ Still s t
              ∧ (t.bodyCursor q).failNext = !a.fits) := by
  obtain ⟨t, went, values, pending⟩ := Message.appendAll_outcome (s := s) raw args
  have extended := State.Appended.extends values raw unplanned kept
  refine ⟨m.appendAll_eq_oneByOne args s, ⟨t, went, extended, pending⟩, ?_, ?_, ?_⟩
  · intro cs writers
    constructor
    · intro some
      obtain ⟨c, member⟩ := List.exists_mem_of_ne_nil cs some
      exact BodyCursor.AppendsEach.total member args s
    · intro n answer u run
      obtain ⟨mixed, same⟩ := run.outcome raw writers
      exact ⟨same, State.Appended.extends mixed raw unplanned kept⟩
  · intro cs calm ready n answer u run
    obtain ⟨mixed, same⟩ := run.outcome raw fun c member => (ready c member).writesAt
    have takes : s.takes r args = Argument.fitting args := by
      rw [State.takes, calm, if_neg Bool.false_ne_true]
    obtain rfl : n = s.takes r args := (run.stops raw ready).trans takes.symm
    have extendedToo := State.Appended.extends mixed raw unplanned kept
    rw [went, extended.signature, extendedToo.signature, extended.body, extendedToo.body]
    refine ⟨rfl, same.trans ?_, rfl, rfl⟩
    rw [takes, Argument.refusal_fitting, Argument.refusal_fitting]
  · intro q a old waits
    exact BodyCursor.append_of_failing old waits

/-- Two integers, and between them a text with a NUL in it. -/
def nulArguments : List Argument :=
  [.int32 7, .string "\x00", .int32 8]

/-- The first integer is appended and the text refused, in one call and through any positions, that of a
writer among them.
-/
theorem nulArguments_stop
    : blobState.Unplanned
      ∧ (∃ t,
          blobMessage.appendAll nulArguments blobState = (.error .interiorNul, t)
          ∧ blobMessage.signature t = (.ok "ii", t))
      ∧ ∃ n done,
          BodyCursor.AppendsEach blobMessage [blobWriter] nulArguments blobState n done
          ∧ n = 1
          ∧ done.1 = .error .interiorNul := by
  have ready : ∀ c ∈ [blobWriter], blobState.Ready ⟨0⟩ c :=
    List.forall_mem_singleton.2 ⟨⟨0⟩, rfl, Nat.zero_lt_one, rfl, rfl⟩
  obtain ⟨-, ⟨t, went, extended, -⟩, runs, mixed, -⟩ :=
    append_paths_agree (show blobMessage.raw = some ⟨0⟩ from rfl) blobState_unplanned rfl nulArguments
  obtain ⟨n, ⟨answer, u⟩, run⟩ := (runs _ fun c member => (ready c member).writesAt).1 nofun
  obtain ⟨stop, same, -⟩ := mixed _ rfl ready n answer u run
  refine ⟨blobState_unplanned, ⟨t, went, extended.signature⟩, n, (answer, u), run, stop, ?_⟩
  rw [same, went]
  rfl

end Custody
