import Custody.Proofs.Cursors.Draws
import Custody.Text.Utf8.Lossy
import Mathlib.Data.List.Forall2

/-! What a wrapper that is emptied makes of native elements: texts come back unless they cannot be stored, any
bytes come back as what they spell up to their terminator, and numbers and flags come back bit for bit.
-/

namespace Custody

-----------------------------------------------------------------------------------------
-- Texts in memory
-----------------------------------------------------------------------------------------

namespace ZeroTerminated

/-- Only one character has a zero among its bytes. -/
theorem ne_zero_of_mem_utf8EncodeChar {c : Char} (other : c ≠ '\x00') {b : UInt8}
    (there : b ∈ String.utf8EncodeChar c)
    : b ≠ 0 := by
  have positive : c.val.toNat ≠ 0 := fun zero => other (Char.toNat_inj.1 zero)
  have byte {n : Nat} (low : n < 256) (some : n ≠ 0) : UInt8.ofNat n ≠ 0 := by
    intro zero
    have number := congrArg UInt8.toNat zero
    rw [Utf8.toNat_byte low] at number
    exact some number
  unfold String.utf8EncodeChar at there
  dsimp only at there
  generalize c.val.toNat = v at there positive
  repeat' split at there
  all_goals
    simp only [List.mem_cons, List.not_mem_nil, or_false] at there
    rcases there with rfl | rfl | rfl | rfl <;> exact byte (by omega) (by omega)

/-- A text without a NUL stands in memory up to its terminator. -/
theorem takeWhile_encode {s : String} (fit : fits s = true) (after : List UInt8)
    : (Utf8.encode s ++ 0 :: after).takeWhile (· != 0) = Utf8.encode s := by
  have all : ∀ b ∈ Utf8.encode s, (b != 0) = true := by
    intro b there
    obtain ⟨c, here, there⟩ := List.mem_flatMap.1 there
    have other : c ≠ '\x00' := bne_iff_ne.1 (List.all_eq_true.1 fit c here)
    exact bne_iff_ne.2 (ne_zero_of_mem_utf8EncodeChar other there)
  rw [List.takeWhile_append_of_pos all]
  exact List.append_nil _

/-- All of a text is stored unless it holds a NUL. -/
theorem kept_eq (s : String)
    : kept s = if '\x00' ∈ s.toList then "" else s := by
  have held : '\x00' ∈ s.toList ↔ ¬ fits s = true := by
    simp only [fits, List.all_eq_true, bne_iff_ne, Classical.not_forall, Decidable.not_not]
    exact ⟨fun there => ⟨_, there, rfl⟩, fun ⟨_, there, nul⟩ => nul ▸ there⟩
  unfold kept
  simp only [held, ite_not]

/-- What is stored of a text is read back. -/
theorem read_memory (s : String)
    : read (memory s) = kept s := by
  rw [read, memory, takeWhile_encode (fits_kept s), Utf8.decode_encode]

/-- Memory reads as what its bytes spell up to the first zero byte. -/
theorem lossy_read (bytes : List UInt8)
    : Utf8.Lossy (bytes.takeWhile (· != 0)) (read bytes).toList :=
  Utf8.lossy_iff.2 String.ofList_toList.symm

end ZeroTerminated

-----------------------------------------------------------------------------------------
-- Numbers in memory
-----------------------------------------------------------------------------------------

namespace ElementKind

/-- Zero, for the kinds of elements that are numbers, and no for flags. -/
def zero? : (k : ElementKind) → Option k.Carrier
  | int8 => some (0 : Int8)
  | uint8 => some (0 : UInt8)
  | int16 => some (0 : Int16)
  | uint16 => some (0 : UInt16)
  | int32 => some (0 : Int32)
  | uint32 => some (0 : UInt32)
  | int64 => some (0 : Int64)
  | uint64 => some (0 : UInt64)
  | single => some ⟨0⟩
  | double => some ⟨0⟩
  | flag => some false
  | pointer | textPointer | text | buffer => none

theorem number_store {width n : Nat} (fits : n < LittleEndian.span width)
    : number width (.memory (LittleEndian.encode width n)) = n := by
  rw [number, memory, LittleEndian.read, List.take_of_length_le (by simp),
    LittleEndian.decode_encode, Nat.mod_eq_of_lt fits]

/-- A number or a flag is read as it was stored; one case for each kind. -/
theorem read_store {k : ElementKind} {zero : k.Carrier} (number : k.zero? = some zero)
    (v : k.Carrier)
    : k.read (k.store v) = v := by
  cases k with
  | int8 =>
      rw [store, read, number_store v.toUInt8.toNat_lt, UInt8.ofNat_toNat, Int8.toInt8_toUInt8]
  | int16 =>
      rw [store, read, number_store v.toUInt16.toNat_lt, UInt16.ofNat_toNat, Int16.toInt16_toUInt16]
  | int32 =>
      rw [store, read, number_store v.toUInt32.toNat_lt, UInt32.ofNat_toNat, Int32.toInt32_toUInt32]
  | int64 =>
      rw [store, read, number_store v.toUInt64.toNat_lt, UInt64.ofNat_toNat, Int64.toInt64_toUInt64]
  | uint8 => rw [store, read, number_store v.toNat_lt, UInt8.ofNat_toNat]
  | uint16 => rw [store, read, number_store v.toNat_lt, UInt16.ofNat_toNat]
  | uint32 => rw [store, read, number_store v.toNat_lt, UInt32.ofNat_toNat]
  | uint64 => rw [store, read, number_store v.toNat_lt, UInt64.ofNat_toNat]
  | single => rw [store, read, number_store v.bits.toNat_lt, UInt32.ofNat_toNat]
  | double => rw [store, read, number_store v.bits.toNat_lt, UInt64.ofNat_toNat]
  | flag => cases v <;> rfl
  | pointer | textPointer | text | buffer => cases number

theorem read_null {k : ElementKind} {zero : k.Carrier} (number : k.zero? = some zero)
    : k.read .null = zero := by
  cases k <;> cases number <;> rfl

theorem read_flag (b : UInt8)
    : flag.read (.memory [b]) = (b != 0) := by
  have same : number 1 (.memory [b]) = b.toNat := Nat.add_zero _
  rw [read, same, Bool.eq_iff_iff, bne_iff_ne, bne_iff_ne]
  exact not_congr (UInt8.toNat_inj (b := 0))

end ElementKind

-----------------------------------------------------------------------------------------
-- Whole lists
-----------------------------------------------------------------------------------------

namespace State

/-- All that a wrapper gives that is made of a new cursor over these elements. -/
def collected (s : State) (k : ElementKind) (own : Bool) (elements : List Native.Element)
    : List k.Carrier :=
  let (r, t) := s.newCursor { rest := elements }
  ((Cursor.ofRaw (some r) own : Cursor k).collect t).1

theorem collected_eq (s : State) (k : ElementKind) (own : Bool) (elements : List Native.Element)
    : s.collected k own elements = elements.map k.read := by
  let made := s.newCursor { rest := elements }
  have standing : (made.2.reading made.1).1 = elements :=
    congrArg Native.Cursor.rest (s.world.cursors.get_alloc_self _)
  have asks : (Cursor.ofRaw (some made.1) own : Cursor k).Asks := ⟨rfl, nofun⟩
  have drawn := (Cursor.draws_collect asks rfl made.2).values
  rw [standing, List.take_of_length_le (Nat.le_succ _)] at drawn
  exact drawn

/-- A wrapper of a new cursor over any elements, in any state, gives what stands behind them. A text comes
back as it was stored; one that is missing or holds a NUL comes back empty. Memory that is read as
text gives what its bytes spell up to the first zero byte, which is a text if they are its bytes. A
number or a flag comes back bit for bit, and zero or no for a null pointer; any byte other than zero is
a yes.
-/
theorem elements_decoded (s : State) (own : Bool)
    : (∀ texts : List (Option String),
        s.collected .text own (ElementKind.storeTexts texts)
          = texts.map (·.elim "" fun text => if '\x00' ∈ text.toList then "" else text))
      ∧ (∀ memories : List (List UInt8),
          List.Forall₂
            (fun bytes text =>
              Utf8.Lossy (bytes.takeWhile (· != 0)) text.toList
              ∧ ∀ whole, bytes.takeWhile (· != 0) = Utf8.encode whole → text = whole)
            memories (s.collected .text own (memories.map .memory)))
      ∧ (∀ (k : ElementKind) (zero : k.Carrier), k.zero? = some zero →
          ∀ values : List (Option k.Carrier),
            s.collected k own (values.map (·.elim .null k.store)) = values.map (·.getD zero))
      ∧ (∀ flags : List (Option UInt8),
          s.collected .flag own (flags.map (·.elim .null (.memory [·])))
            = flags.map (·.elim false (· != 0))) := by
  simp only [collected_eq, ElementKind.storeTexts, List.map_map]
  refine ⟨fun texts => ?_, fun memories => ?_, fun k zero number values => ?_, fun flags => ?_⟩
  · refine List.map_congr_left fun t _ => ?_
    cases t with
    | none => exact Utf8.decode_encode ""
    | some text => exact (ZeroTerminated.read_memory text).trans (ZeroTerminated.kept_eq text)
  · rw [List.forall₂_map_right_iff]
    refine List.forall₂_same.2 fun bytes _ => ⟨ZeroTerminated.lossy_read bytes, fun whole same => ?_⟩
    exact (congrArg Utf8.decode same).trans (Utf8.decode_encode whole)
  · refine List.map_congr_left fun v _ => ?_
    cases v with
    | none => exact ElementKind.read_null number
    | some v => exact ElementKind.read_store number v
  · refine List.map_congr_left fun b _ => ?_
    cases b with
    | none => rfl
    | some b => exact ElementKind.read_flag b

/-- Two bytes with all bits set are minus one, and a null pointer is zero; of three texts only the last can
be stored.
-/
theorem few_elements_decoded
    : ElementKind.int16.zero? = some (0 : Int16)
      ∧ (blank {}).collected .int16 true [.memory [0xFF, 0xFF], .null] = [(-1 : Int16), 0]
      ∧ (blank {}).collected .text false
          (ElementKind.storeTexts [some "a\x00b", none, some "\u00E9"])
        = ["", "", "\u00E9"] := by
  obtain ⟨-, -, numbers, -⟩ := elements_decoded (blank {}) true
  obtain ⟨texts, -, -, -⟩ := elements_decoded (blank {}) false
  refine ⟨rfl, ?_, ?_⟩
  · exact numbers .int16 (0 : Int16) rfl [some (-1 : Int16), none]
  · rw [texts]
    decide

end State

end Custody
