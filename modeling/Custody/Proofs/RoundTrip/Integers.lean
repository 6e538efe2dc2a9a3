import Custody.Proofs.Writing.Sequences
import Mathlib.Data.Int.ModEq

/-! Integers are stored in 64 bits and read by as many of them as their type has. So a stored integer of any
size is read as the one value of the type that agrees with it modulo the width, a flag as whether the integer
is other than zero, and a value that was appended as itself.
-/

namespace Custody

open State

/-- The number of bits of an integer type. -/
def ArgumentType.width? : ArgumentType → Option Nat
  | byte => some 8
  | int16 | uint16 => some 16
  | int32 | uint32 | unixFd => some 32
  | int64 | uint64 => some 64
  | boolean | double | string | objectPath | signature | array | struct | variant | dictEntry => none

/-- The integer that is stored. -/
def Scalar.integer? : Scalar → Option Int
  | int v => some v.toInt
  | uint v => some v.toNat
  | double _ | text _ | bytes _ => none

/-- The integer that a value of an integer type is. -/
def Argument.integer? : Argument → Option Int
  | byte v => some v.toNat
  | int16 v => some v.toInt
  | uint16 v => some v.toNat
  | int32 v => some v.toInt
  | uint32 v => some v.toNat
  | int64 v => some v.toInt
  | uint64 v => some v.toNat
  | unixFd fd => some fd.number.toInt
  | boolean _ | double _ | string _ | objectPath _ | signature _ => none

-----------------------------------------------------------------------------------------
-- Residues
-----------------------------------------------------------------------------------------

theorem two_pow_eq_cast (w : Nat)
    : (2 ^ w : Int) = (2 ^ w : Nat) := by
  rw [Nat.cast_pow]
  rfl

/-- The residue of a number is the one unsigned word that is congruent to it. -/
theorem toNat_modEq_iff {w : Nat} (x : BitVec w) (m : Nat)
    : (x.toNat : Int) ≡ m [ZMOD 2 ^ w] ↔ x = BitVec.ofNat w m := by
  rw [two_pow_eq_cast, Int.natCast_modEq_iff, Nat.ModEq, Nat.mod_eq_of_lt x.isLt, ← BitVec.toNat_inj,
    BitVec.toNat_ofNat]

/-- It is the one signed word, too. -/
theorem toInt_modEq_iff {w : Nat} (x : BitVec w) (m : Nat)
    : x.toInt ≡ m [ZMOD 2 ^ w] ↔ x = BitVec.ofNat w m := by
  have same : x.toInt ≡ x.toNat [ZMOD 2 ^ w] := by
    rw [two_pow_eq_cast, BitVec.toInt_eq_toNat_bmod]
    exact Int.bmod_emod
  exact ⟨fun congruent => (toNat_modEq_iff x m).1 (same.symm.trans congruent),
    fun here => same.trans ((toNat_modEq_iff x m).2 here)⟩

namespace Argument

/-- The value that is made of the low bits of a slot is the one that is congruent to them, if the values of
its type are told by as many bits and their numbers are congruent to these.
-/
theorem ofSlot?_iff_of_word {α : Type} {t : ArgumentType} {w : Nat} {bits : UInt64} {found : α}
    (make : α → Argument) (number : α → Int) (word : α → BitVec w)
    (made : ofSlot? t (.word bits) = some (make found))
    (low : word found = bits.toBitVec.setWidth w)
    (told : ∀ x, (make x).type = t ∧ (make x).integer? = some (number x))
    (all : ∀ b, b.type = t → ∃ x, b = make x) (apart : ∀ {x y}, word x = word y ↔ x = y)
    (residue : ∀ x m, number x ≡ (m : Nat) [ZMOD 2 ^ w] ↔ word x = BitVec.ofNat w m) (b : Argument)
    : ofSlot? t (.word bits) = some b
      ↔ b.type = t ∧ ∃ n, b.integer? = some n ∧ n ≡ bits.toNat [ZMOD 2 ^ w] := by
  have here (x : α) : number x ≡ bits.toNat [ZMOD 2 ^ w] ↔ x = found := by
    rw [residue, ← UInt64.toNat_toBitVec, BitVec.ofNat_toNat, ← low, apart]
  rw [made]
  constructor
  · rintro ⟨⟩
    exact ⟨(told found).1, number found, (told found).2, (here found).2 rfl⟩
  · rintro ⟨type, n, integer, congruent⟩
    obtain ⟨x, rfl⟩ := all b type
    obtain rfl : number x = n := Option.some.inj ((told x).2.symm.trans integer)
    rw [(here x).1 congruent]

/-- One case for each integer type. -/
theorem ofSlot?_word_iff {t : ArgumentType} {w : Nat} (width : t.width? = some w) (bits : UInt64)
    (b : Argument)
    : ofSlot? t (.word bits) = some b
      ↔ b.type = t ∧ ∃ n, b.integer? = some n ∧ n ≡ bits.toNat [ZMOD 2 ^ w] := by
  cases t with
  | byte =>
      cases width
      exact ofSlot?_iff_of_word byte (·.toNat) (·.toBitVec) rfl rfl (fun _ => ⟨rfl, rfl⟩)
        (fun b type => by cases b <;> cases type; exact ⟨_, rfl⟩) UInt8.toBitVec_inj
        (fun x => toNat_modEq_iff x.toBitVec) b
  | uint16 =>
      cases width
      exact ofSlot?_iff_of_word uint16 (·.toNat) (·.toBitVec) rfl rfl (fun _ => ⟨rfl, rfl⟩)
        (fun b type => by cases b <;> cases type; exact ⟨_, rfl⟩) UInt16.toBitVec_inj
        (fun x => toNat_modEq_iff x.toBitVec) b
  | uint32 =>
      cases width
      exact ofSlot?_iff_of_word uint32 (·.toNat) (·.toBitVec) rfl rfl (fun _ => ⟨rfl, rfl⟩)
        (fun b type => by cases b <;> cases type; exact ⟨_, rfl⟩) UInt32.toBitVec_inj
        (fun x => toNat_modEq_iff x.toBitVec) b
  | uint64 =>
      cases width
      exact ofSlot?_iff_of_word uint64 (·.toNat) (·.toBitVec) rfl rfl (fun _ => ⟨rfl, rfl⟩)
        (fun b type => by cases b <;> cases type; exact ⟨_, rfl⟩) UInt64.toBitVec_inj
        (fun x => toNat_modEq_iff x.toBitVec) b
  | int16 =>
      cases width
      exact ofSlot?_iff_of_word int16 (·.toInt) (·.toBitVec) rfl rfl (fun _ => ⟨rfl, rfl⟩)
        (fun b type => by cases b <;> cases type; exact ⟨_, rfl⟩) Int16.toBitVec_inj
        (fun x => toInt_modEq_iff x.toBitVec) b
  | int32 =>
      cases width
      exact ofSlot?_iff_of_word int32 (·.toInt) (·.toBitVec) rfl rfl (fun _ => ⟨rfl, rfl⟩)
        (fun b type => by cases b <;> cases type; exact ⟨_, rfl⟩) Int32.toBitVec_inj
        (fun x => toInt_modEq_iff x.toBitVec) b
  | int64 =>
      cases width
      exact ofSlot?_iff_of_word int64 (·.toInt) (·.toBitVec) rfl rfl (fun _ => ⟨rfl, rfl⟩)
        (fun b type => by cases b <;> cases type; exact ⟨_, rfl⟩) Int64.toBitVec_inj
        (fun x => toInt_modEq_iff x.toBitVec) b
  | unixFd =>
      cases width
      exact ofSlot?_iff_of_word (unixFd ⟨·⟩) (·.toInt) (·.toBitVec) rfl rfl (fun _ => ⟨rfl, rfl⟩)
        (fun b type => by cases b <;> cases type; exact ⟨_, rfl⟩) Int32.toBitVec_inj
        (fun x => toInt_modEq_iff x.toBitVec) b
  | boolean | double | string | objectPath | signature | array | struct | variant | dictEntry =>
      cases width

/-- The value is an integer or a flag. -/
def IsInteger (a : Argument) : Prop :=
  a.type.width?.isSome ∨ a.type = .boolean

theorem IsInteger.fits {a : Argument} (integer : a.IsInteger)
    : a.fits = true := by
  cases a with
  | string | objectPath | signature => exact (integer.elim nofun nofun)
  | _ => rfl

end Argument

-----------------------------------------------------------------------------------------
-- Reading
-----------------------------------------------------------------------------------------

/-- The bits of a stored integer are congruent to it, and are zero only if it is. -/
theorem Scalar.word?_of_integer? {value : Scalar} {v : Int} (integer : value.integer? = some v)
    : ∃ bits : UInt64,
        value.word? = some bits ∧ bits.toNat ≡ v [ZMOD 2 ^ 64] ∧ (bits = 0 ↔ v = 0) := by
  cases value with
  | int n =>
      cases integer
      refine ⟨_, rfl, ((toInt_modEq_iff n.toBitVec _).2 ?_).symm, ?_⟩
      · exact (BitVec.ofNat_toNat 64 n.toBitVec).symm.trans (by simp)
      · exact (UInt64.toBitVec_inj (b := 0)).symm.trans
          ((Int64.toBitVec_inj (b := 0)).trans (Int64.toInt_inj (y := 0)).symm)
  | uint n =>
      cases integer
      exact ⟨n, rfl, rfl, by rw [← UInt64.toNat_inj]; exact Int.natCast_eq_zero.symm⟩
  | double | text | bytes => cases integer

/-- Under the codes of integers the slot is filled with the bits. -/
theorem Scalar.slot?_of_word? {value : Scalar} {bits : UInt64} (word : value.word? = some bits)
    {t : ArgumentType} {w : Nat} (width : t.width? = some w)
    : value.slot? t.code = some (.word bits) := by
  have letter : t.code ∈ ['y', 'n', 'q', 'i', 'h', 'u', 'x', 't'] := by
    cases t <;> cases width <;> decide
  cases value with
  | int n =>
      cases word
      exact slot?_int _ n letter
  | uint n =>
      cases word
      exact slot?_uint _ _ letter
  | double | text | bytes => cases word

/-- Under the code of flags it is filled with one or zero. -/
theorem Scalar.flag_of_word? {value : Scalar} {bits : UInt64} (word : value.word? = some bits)
    : (value.slot? 'b').bind (Argument.ofSlot? .boolean) = some (.boolean (bits ≠ 0)) := by
  have flag : (slot?.ofWord 'b' bits).bind (Argument.ofSlot? .boolean)
      = some (.boolean (bits ≠ 0)) := by
    by_cases zero : bits = 0
    · subst zero
      rfl
    · simp [slot?.ofWord, zero, Argument.ofSlot?]
  cases value with
  | int n =>
      cases word
      exact flag
  | uint n =>
      cases word
      exact flag
  | double | text | bytes => cases word

/-- A stored integer is read as the value of the type that is congruent to it, and passed. -/
theorem BodyCursor.read_integer {s : State} {r : Ref Native.BodyCursor} {t : ArgumentType} {w : Nat}
    {value : Scalar} {rest : Body} {v : Int} (unplanned : s.Unplanned)
    (next : (s.bodyCursor r).rest = .scalar t.code value rest) (coded : rest.wellCoded = true)
    (integer : value.integer? = some v) (width : t.width? = some w)
    : ∃ a,
        BodyCursor.read ⟨some r⟩ s = (.ok a, s.moveTo r rest)
        ∧ ∀ b, b = a ↔ b.type = t ∧ ∃ n, b.integer? = some n ∧ n ≡ v [ZMOD 2 ^ w] := by
  obtain ⟨bits, word, congruent, -⟩ := Scalar.word?_of_integer? integer
  have narrow : bits.toNat ≡ v [ZMOD 2 ^ w] := by
    have within : w ≤ 64 := by cases t <;> cases width <;> decide
    exact congruent.of_dvd (pow_dvd_pow 2 within)
  have basic : t.isBasic = true := by cases t <;> cases width <;> rfl
  have coded' : (Body.scalar t.code value rest).wellCoded = true := by
    simp [Body.wellCoded, coded]
  obtain ⟨a, made⟩ : ∃ a, Argument.ofSlot? t (.word bits) = some a := by
    cases t <;> cases width <;> exact ⟨_, rfl⟩
  have found : (value.slot? t.code).bind (Argument.ofSlot? t) = some a := by
    rw [Scalar.slot?_of_word? word width]
    exact made
  refine ⟨a, read_basic unplanned next coded' basic found, fun b => ?_⟩
  have here := Argument.ofSlot?_word_iff width bits b
  rw [made, Option.some_inj] at here
  refine (eq_comm.trans here).trans (and_congr_right fun _ => exists_congr fun n => ?_)
  exact and_congr_right fun _ => ⟨fun same => same.trans narrow, fun same => same.trans narrow.symm⟩

theorem BodyCursor.read_argument {s : State} {r : Ref Native.BodyCursor} {a : Argument}
    {rest : Body} (unplanned : s.Unplanned) (fits : a.fits = true)
    (next : (s.bodyCursor r).rest = .scalar a.code a.scalar rest) (coded : rest.wellCoded = true)
    : BodyCursor.read ⟨some r⟩ s = (.ok a, s.moveTo r rest) := by
  have coded' : (Body.scalar a.type.code a.scalar rest).wellCoded = true := by
    simp [Body.wellCoded, coded]
  exact read_basic unplanned next coded' a.isBasic_type (a.ofSlot?_scalar fits)

/-- A value that was appended to a message is found by a new reader behind the values before it. -/
theorem Message.reads_appended {s : State} {m : Message} {r : Ref Native.Message} {a : Argument}
    (unplanned : s.Unplanned) (raw : m.raw = some r) (fits : a.fits = true)
    (fit : (s.message r).body.readable = true)
    : ∃ c t u v,
        m.cursor (s.appendTo r a) = (.ok c, t)
        ∧ c.passMany (s.message r).body.length t = (.ok (), u)
        ∧ c.read u = (.ok a, v) := by
  have unplanned' : (s.appendTo r a).Unplanned := unplanned
  have body : ((s.appendTo r a).message r).body = (s.message r).body ++ .one a.code a.scalar :=
    congrArg Native.Message.body (s.world.messages.get_put_self r _)
  have coded : (Body.one a.code a.scalar).wellCoded = true := by
    simp [Body.one, Argument.code, Body.wellCoded]
  obtain ⟨q, t, made, fresh, old, stands⟩ := Message.cursor_stands unplanned' raw
  obtain ⟨u, passed, moved, next⟩ :=
    BodyCursor.passMany_ok fit (fresh.unplanned unplanned') old (stands.trans body)
      (Body.wellCoded_append (Body.wellCoded_of_readable fit) coded)
  have read := BodyCursor.read_argument (moved.unplanned (fresh.unplanned unplanned')) fits next rfl
  exact ⟨⟨some q⟩, t, u, _, made, passed, read⟩

/-- A position at which an integer is stored under the code of an integer type, of any size and with or
without a sign, reads the one value of the type that is congruent to it modulo the width, and passes it;
under the code of flags it reads whether the integer is other than zero. An integer or a flag that is
appended to a message, or through a position, is stored so that a position at which it stands reads it
unchanged; a new position of the message comes to stand there past the values before it.
-/
theorem integers_read_modulo_width
    : (∀ (s : State) (r : Ref Native.BodyCursor) (t : ArgumentType) (value : Scalar) (rest : Body)
          (v : Int),
        s.Unplanned →
        (s.bodyCursor r).rest = .scalar t.code value rest →
        rest.wellCoded = true →
        value.integer? = some v →
          (∀ w, t.width? = some w →
            ∃ a,
              BodyCursor.read ⟨some r⟩ s = (.ok a, s.moveTo r rest)
              ∧ ∀ b, b = a ↔ b.type = t ∧ ∃ n, b.integer? = some n ∧ n ≡ v [ZMOD 2 ^ w])
          ∧ (t = .boolean →
              BodyCursor.read ⟨some r⟩ s = (.ok (.boolean (v ≠ 0)), s.moveTo r rest)))
      ∧ (∀ (s : State) (m : Message) (r : Ref Native.Message) (a : Argument),
          s.Unplanned → m.raw = some r → a.IsInteger →
            ((s.message r).failNext = false → m.append a s = (.ok (), s.appendTo r a))
            ∧ (∀ c, s.Ready r c → c.append a s = (.ok (), s.appendTo r a))
            ∧ ((s.message r).body.readable = true →
                ∃ c t u v,
                  m.cursor (s.appendTo r a) = (.ok c, t)
                  ∧ c.passMany (s.message r).body.length t = (.ok (), u)
                  ∧ c.read u = (.ok a, v)))
      ∧ (∀ (s : State) (q : Ref Native.BodyCursor) (a : Argument),
          a.IsInteger → q.index < s.cursorCount → (s.bodyCursor q).failNext = false →
            BodyCursor.append ⟨some q⟩ a s
              = (.ok (), s.push q (.one a.code a.scalar) a.type.letter))
      ∧ (∀ (s : State) (r : Ref Native.BodyCursor) (a : Argument) (rest : Body),
          s.Unplanned → a.IsInteger →
          (s.bodyCursor r).rest = .scalar a.code a.scalar rest →
          rest.wellCoded = true →
            BodyCursor.read ⟨some r⟩ s = (.ok a, s.moveTo r rest)) := by
  refine ⟨fun s r t value rest v unplanned next coded integer => ⟨fun w width => ?_, ?_⟩,
    fun s m r a unplanned raw integer => ⟨fun calm => ?_, fun c ready => ?_, fun fit => ?_⟩,
    fun s q a integer old calm => ?_, fun s r a rest unplanned integer next coded => ?_⟩
  · exact BodyCursor.read_integer unplanned next coded integer width
  · rintro rfl
    obtain ⟨bits, word, -, zero⟩ := Scalar.word?_of_integer? integer
    have found := Scalar.flag_of_word? word
    simp only [ne_eq, zero] at found
    exact BodyCursor.read_basic unplanned next coded rfl found
  · rw [Message.append_of_calm raw calm, if_pos integer.fits]
  · rw [BodyCursor.append_of_ready ready, if_pos integer.fits]
  · exact Message.reads_appended unplanned raw integer.fits fit
  · rw [BodyCursor.append, State.live, Attempt.andThen_ok, integer.fits, writeCursor,
      takeCursorFailure_of_calm old calm]
    rfl
  · exact BodyCursor.read_argument unplanned integer.fits next coded

/-- The largest number of 16 bits, stored without a sign and read with one, is minus one; and the least
number of an open file is read as it was appended.
-/
theorem extremes_read
    : (∃ t,
        BodyCursor.read ⟨some ⟨0⟩⟩
            ((State.blank {}).newBodyCursor { rest := .one 'n' (.uint 0xFFFF) }).2
          = (.ok (.int16 (-1)), t))
      ∧ ∃ c t u v,
          blobMessage.cursor (blobState.appendTo ⟨0⟩ (.unixFd ⟨-0x80000000⟩)) = (.ok c, t)
          ∧ c.passMany 1 t = (.ok (), u)
          ∧ c.read u = (.ok (.unixFd ⟨-0x80000000⟩), v) := by
  obtain ⟨reads, appended, -, -⟩ := integers_read_modulo_width
  constructor
  · obtain ⟨a, found, only⟩ :=
      (reads ((State.blank {}).newBodyCursor { rest := .one 'n' (.uint 0xFFFF) }).2 ⟨0⟩ .int16
        (.uint 0xFFFF) .empty 0xFFFF rfl rfl rfl rfl).1 16 rfl
    obtain rfl : Argument.int16 (-1) = a := (only _).2 ⟨rfl, -1, rfl, by decide⟩
    exact ⟨_, found⟩
  · exact (appended blobState blobMessage ⟨0⟩ (.unixFd ⟨-0x80000000⟩) blobState_unplanned rfl
      (.inl rfl)).2.2 rfl

end Custody
