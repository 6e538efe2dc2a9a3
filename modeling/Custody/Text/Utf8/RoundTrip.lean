import Custody.Text.Utf8

/-!
Texts survive their bytes. Main statements: `pieces_encode`, by which the bytes of a text fall into
its characters, and `decode_encode` and `decode?_encode`, by which both ways of reading give the
text back.
-/

namespace Custody.Utf8

-----------------------------------------------------------------------------------------
-- Bytes by their numbers
-----------------------------------------------------------------------------------------

/-- A byte made from a number below 256 has that number. -/
theorem toNat_byte {n : Nat} (small : n < 256)
    : (UInt8.ofNat n).toNat = n := by
  simp
  omega

/-- The tails are the bytes from 0x80 to 0xBF. -/
theorem isTail_iff {b : UInt8}
    : isTail b = true ↔ 0x80 ≤ b.toNat ∧ b.toNat ≤ 0xBF := by
  simp [isTail, UInt8.le_iff_toNat_le]

/-- One tail follows the leads from 0xC2 to 0xDF. -/
theorem tailCount_eq_one {lead : UInt8} (low : 0xC2 ≤ lead.toNat) (high : lead.toNat ≤ 0xDF)
    : tailCount lead = 1 := by
  simp [tailCount, UInt8.le_iff_toNat_le, low, high]

/-- Two tails follow the leads from 0xE0 to 0xEF. -/
theorem tailCount_eq_two {lead : UInt8} (low : 0xE0 ≤ lead.toNat) (high : lead.toNat ≤ 0xEF)
    : tailCount lead = 2 := by
  have above : ¬ lead.toNat ≤ 0xDF := by omega
  simp [tailCount, UInt8.le_iff_toNat_le, low, high, above]

/-- Three tails follow the leads from 0xF0 to 0xF4. -/
theorem tailCount_eq_three {lead : UInt8} (low : 0xF0 ≤ lead.toNat) (high : lead.toNat ≤ 0xF4)
    : tailCount lead = 3 := by
  have aboveOne : ¬ lead.toNat ≤ 0xDF := by omega
  have aboveTwo : ¬ lead.toNat ≤ 0xEF := by omega
  simp [tailCount, UInt8.le_iff_toNat_le, low, high, aboveOne, aboveTwo]

/-- A tail fits as second byte unless one of the four narrow leads forbids it. -/
theorem fitsSecond_of_bounds {lead second : UInt8} (tail : isTail second = true)
    (long₂ : lead.toNat = 0xE0 → 0xA0 ≤ second.toNat)
    (surrogate : lead.toNat = 0xED → second.toNat ≤ 0x9F)
    (long₃ : lead.toNat = 0xF0 → 0x90 ≤ second.toNat)
    (past : lead.toNat = 0xF4 → second.toNat ≤ 0x8F)
    : fitsSecond lead second = true := by
  have bounds := isTail_iff.1 tail
  unfold fitsSecond
  simp only [← UInt8.toNat_inj, UInt8.le_iff_toNat_le]
  repeat' split
  all_goals simp_all

-----------------------------------------------------------------------------------------
-- One character
-----------------------------------------------------------------------------------------

/-- A byte below 0x80 is a character of its own. -/
theorem scan_ascii {lead : UInt8} (rest : List UInt8) (low : lead.toNat < 0x80)
    : scan lead rest = (some (Char.ofNat lead.toNat), 0) := by
  simp [scan, UInt8.lt_iff_toNat_lt, low]

/-- Bytes that all pass a test are all taken, by list induction. -/
theorem takeWhile_eq_self {p : UInt8 → Bool} {bytes : List UInt8} (all : ∀ b ∈ bytes, p b = true)
    : bytes.takeWhile p = bytes := by
  induction bytes with
  | nil => rfl
  | cons b rest ih => simp_all

/-- A lead with as many fitting tails as it asks for is the character they spell. -/
theorem scan_tails {lead second : UInt8} {more : List UInt8} (rest : List UInt8)
    (high : 0x80 ≤ lead.toNat) (count : tailCount lead = more.length + 1)
    (fits : fitsSecond lead second = true) (tail : ∀ b ∈ more, isTail b = true)
    : scan lead (second :: more ++ rest)
      = (some (assemble lead (second :: more)), more.length + 1) := by
  have cut : (second :: more ++ rest).take (tailCount lead) = second :: more :=
    List.take_left' count.symm
  have whole : tails lead (second :: more ++ rest) = second :: more := by
    simp only [tails, cut, fits, if_true, takeWhile_eq_self tail]
  have notAscii : ¬ lead < 0x80 := by
    rw [UInt8.lt_iff_toNat_lt]
    exact Nat.not_lt.2 high
  unfold scan
  rw [if_neg notAscii, if_neg (by omega), whole]
  simp [count]

/-- The bytes of a character scan as that character, by cases of their number. -/
theorem scan_utf8EncodeChar (c : Char) (rest : List UInt8)
    : ∃ lead more, String.utf8EncodeChar c = lead :: more
        ∧ scan lead (more ++ rest) = (some c, more.length) := by
  have valid : c.val.toNat < 0xD800 ∨ 0xDFFF < c.val.toNat ∧ c.val.toNat < 0x110000 := c.valid
  have back : Char.ofNat c.val.toNat = c := by simp
  unfold String.utf8EncodeChar
  dsimp only
  generalize c.val.toNat = v at *
  split
  · have lead : (UInt8.ofNat v).toNat = v := toNat_byte (by omega)
    exact ⟨_, [], rfl, by rw [scan_ascii _ (by omega), lead, back]; rfl⟩
  · split
    · have lead := toNat_byte (n := v / 64 % 32 + 192) (by omega)
      have first := toNat_byte (n := v % 64 + 128) (by omega)
      refine ⟨_, _, rfl, ?_⟩
      rw [scan_tails rest (by omega) (tailCount_eq_one (by omega) (by omega))
        (fitsSecond_of_bounds (isTail_iff.2 (by omega)) (by omega) (by omega) (by omega)
          (by omega)) (by simp)]
      simp only [assemble, List.foldl, lead, first, List.length, Nat.reduceAdd,
        Nat.reduceShiftRight, ← back]
      congr 3
      omega
    · split
      · have lead := toNat_byte (n := v / 4096 % 16 + 224) (by omega)
        have first := toNat_byte (n := v / 64 % 64 + 128) (by omega)
        have second := toNat_byte (n := v % 64 + 128) (by omega)
        refine ⟨_, _, rfl, ?_⟩
        rw [scan_tails rest (by omega) (tailCount_eq_two (by omega) (by omega))
          (fitsSecond_of_bounds (isTail_iff.2 (by omega)) (by omega) (by omega) (by omega)
            (by omega))
          (by simp only [List.mem_singleton, forall_eq]; exact isTail_iff.2 (by omega))]
        simp only [assemble, List.foldl, lead, first, second, List.length, Nat.reduceAdd,
          Nat.reduceShiftRight, ← back]
        congr 3
        omega
      · have lead := toNat_byte (n := v / 262144 % 8 + 240) (by omega)
        have first := toNat_byte (n := v / 4096 % 64 + 128) (by omega)
        have second := toNat_byte (n := v / 64 % 64 + 128) (by omega)
        have third := toNat_byte (n := v % 64 + 128) (by omega)
        refine ⟨_, _, rfl, ?_⟩
        rw [scan_tails rest (by omega) (tailCount_eq_three (by omega) (by omega))
          (fitsSecond_of_bounds (isTail_iff.2 (by omega)) (by omega) (by omega) (by omega)
            (by omega))
          (by
            simp only [List.mem_cons, List.not_mem_nil, or_false, forall_eq_or_imp, forall_eq]
            exact ⟨isTail_iff.2 (by omega), isTail_iff.2 (by omega)⟩)]
        simp only [assemble, List.foldl, lead, first, second, third, List.length, Nat.reduceAdd,
          Nat.reduceShiftRight, ← back]
        congr 3
        omega

-----------------------------------------------------------------------------------------
-- Whole texts
-----------------------------------------------------------------------------------------

/-- The bytes of a character are one piece. -/
theorem pieces_utf8EncodeChar (c : Char) (rest : List UInt8)
    : pieces (String.utf8EncodeChar c ++ rest) = some c :: pieces rest := by
  obtain ⟨lead, more, shape, found⟩ := scan_utf8EncodeChar c rest
  rw [shape, List.cons_append, pieces, found]
  simp

/-- The pieces of the bytes of a text are its characters, by list induction. -/
theorem pieces_encode (s : String)
    : pieces (encode s) = s.toList.map some := by
  unfold encode
  induction s.toList with
  | nil => simp [pieces]
  | cons c rest ih => rw [List.flatMap_cons, pieces_utf8EncodeChar, ih, List.map_cons]

/-- The bytes of a text read as that text. -/
@[simp]
theorem decode_encode (s : String)
    : decode (encode s) = s := by
  simp [decode, pieces_encode, Function.comp_def]

/-- The bytes of a text are well formed, and read as that text. -/
@[simp]
theorem decode?_encode (s : String)
    : decode? (encode s) = some s := by
  have present (cs : List Char) : (cs.map some).mapM id = some cs := by
    induction cs with
    | nil => rfl
    | cons c rest ih => simp_all
  rw [decode?, pieces_encode, present, Option.map_some, String.ofList_toList]

end Custody.Utf8
