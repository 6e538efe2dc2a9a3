import Custody.Text.Utf8.RoundTrip

/-!
What reading makes of bytes that need not be a text, told from the bytes of characters alone. Where the
bytes of a character stand, that character is read. Elsewhere the longest start of a character, or one
byte where none starts, is passed over, and U+FFFD is read for it. Main statement: `lossy_iff`, by which
this is what `decode` reads, and nothing else is.
-/

namespace Custody.Utf8

/-- The bytes are the start of the bytes of a character. -/
def StartsChar (bytes : List UInt8) : Prop :=
  ∃ c, bytes <+: String.utf8EncodeChar c

/-- The bytes `bad`, which `rest` follows, begin no character, and are as much of them as could begin one;
a single byte if none could.
-/
structure IllFormed (bad rest : List UInt8) : Prop where
  nonempty : bad ≠ []
  noChar : ∀ c, ¬ String.utf8EncodeChar c <+: bad ++ rest
  start : StartsChar bad ∨ bad.length = 1
  longest : ∀ start, start <+: bad ++ rest → StartsChar start → start.length ≤ bad.length

/-- Bytes, and the characters that are read from them. -/
inductive Lossy : List UInt8 → List Char → Prop
  | done : Lossy [] []
  | char (c : Char) {rest : List UInt8} {cs : List Char} (next : Lossy rest cs)
    : Lossy (String.utf8EncodeChar c ++ rest) (c :: cs)
  | bad {bad rest : List UInt8} {cs : List Char} (ill : IllFormed bad rest) (next : Lossy rest cs)
    : Lossy (bad ++ rest) ('\uFFFD' :: cs)

-----------------------------------------------------------------------------------------
-- Leads and tails
-----------------------------------------------------------------------------------------

variable {lead second : UInt8} {more rest : List UInt8}

/-- The number of tails tells the range of the lead. -/
theorem lead_of_tailCount (lead : UInt8)
    : tailCount lead = 0
      ∨ tailCount lead = 1 ∧ 0xC2 ≤ lead.toNat ∧ lead.toNat ≤ 0xDF
      ∨ tailCount lead = 2 ∧ 0xE0 ≤ lead.toNat ∧ lead.toNat ≤ 0xEF
      ∨ tailCount lead = 3 ∧ 0xF0 ≤ lead.toNat ∧ lead.toNat ≤ 0xF4 := by
  simp only [tailCount, UInt8.le_iff_toNat_le, Bool.and_eq_true, decide_eq_true_eq]
  repeat' split
  all_goals simp_all

/-- What fits as a second byte is a tail within the bounds of the four narrow leads. -/
theorem bounds_of_fitsSecond (fits : fitsSecond lead second = true)
    : (0x80 ≤ second.toNat ∧ second.toNat ≤ 0xBF)
      ∧ (lead.toNat = 0xE0 → 0xA0 ≤ second.toNat)
      ∧ (lead.toNat = 0xED → second.toNat ≤ 0x9F)
      ∧ (lead.toNat = 0xF0 → 0x90 ≤ second.toNat)
      ∧ (lead.toNat = 0xF4 → second.toNat ≤ 0x8F) := by
  simp only [fitsSecond, isTail, ← UInt8.toNat_inj, UInt8.le_iff_toNat_le, UInt8.reduceToNat] at fits
  repeat' split at fits
  all_goals
    simp only [Bool.and_eq_true, decide_eq_true_eq] at fits
    omega

/-- The tails that are there follow the lead, are no more than it asks for, and fit. -/
theorem tails_cases (lead : UInt8) (rest : List UInt8)
    : tails lead rest = []
      ∨ ∃ second more,
          tails lead rest = second :: more
          ∧ second :: more <+: rest.take (tailCount lead)
          ∧ fitsSecond lead second = true
          ∧ ∀ b ∈ more, isTail b = true := by
  unfold tails
  cases found : rest.take (tailCount lead) with
  | nil => exact .inl rfl
  | cons second more =>
      dsimp only
      split
      · next fits =>
          refine .inr ⟨second, _, rfl, ?_, fits, fun b there => ?_⟩
          · exact (List.prefix_cons_inj second).2 (List.takeWhile_prefix _)
          · exact List.all_eq_true.1 List.all_takeWhile b there
      · exact .inl rfl

-----------------------------------------------------------------------------------------
-- Characters from their bytes
-----------------------------------------------------------------------------------------

theorem toNat_char {n : Nat} (valid : n.isValidChar)
    : (Char.ofNat n).val.toNat = n := by
  rw [Char.ofNat, dif_pos valid]
  rfl

theorem byte_toNat {n : Nat} (b : UInt8) (same : n = b.toNat)
    : UInt8.ofNat n = b := by
  rw [same, UInt8.ofNat_toNat]

/-- A byte below 0x80 is all there is of its character. -/
theorem utf8EncodeChar_ascii (low : lead.toNat < 0x80)
    : String.utf8EncodeChar (Char.ofNat lead.toNat) = [lead] := by
  unfold String.utf8EncodeChar
  rw [toNat_char (.inl (by omega))]
  dsimp only
  rw [if_pos (by omega), UInt8.ofNat_toNat]

/-- A lead with as many fitting tails as it asks for are the bytes of the character they spell, by cases
of their number.
-/
theorem utf8EncodeChar_assemble (count : tailCount lead = more.length + 1)
    (fits : fitsSecond lead second = true) (tail : ∀ b ∈ more, isTail b = true)
    : String.utf8EncodeChar (assemble lead (second :: more)) = lead :: second :: more := by
  obtain ⟨bounds, long₂, surrogate, long₃, past⟩ := bounds_of_fitsSecond fits
  obtain none | ⟨one, low, high⟩ | ⟨two, low, high⟩ | ⟨three, low, high⟩ := lead_of_tailCount lead
  · omega
  · obtain rfl : more = [] := List.length_eq_zero_iff.1 (by omega)
    dsimp only [assemble, List.foldl, List.length, Nat.reduceAdd, Nat.reduceShiftRight]
    unfold String.utf8EncodeChar
    rw [toNat_char (.inl (by omega))]
    dsimp only
    rw [if_neg (by omega), if_pos (by omega), byte_toNat lead (by omega),
      byte_toNat second (by omega)]
  · obtain ⟨third, rfl⟩ : ∃ third, more = [third] := List.length_eq_one_iff.1 (by omega)
    have third_bounds := isTail_iff.1 (tail third List.mem_cons_self)
    dsimp only [assemble, List.foldl, List.length, Nat.reduceAdd, Nat.reduceShiftRight]
    unfold String.utf8EncodeChar
    rw [toNat_char (by unfold Nat.isValidChar; omega)]
    dsimp only
    rw [if_neg (by omega), if_neg (by omega), if_pos (by omega), byte_toNat lead (by omega),
      byte_toNat second (by omega), byte_toNat third (by omega)]
  · obtain ⟨third, last, rfl⟩ := List.exists_cons_of_length_pos (l := more) (by omega)
    obtain ⟨fourth, rfl⟩ : ∃ fourth, last = [fourth] :=
      List.length_eq_one_iff.1 (by rw [List.length_cons] at count; omega)
    have third_bounds := isTail_iff.1 (tail third List.mem_cons_self)
    have fourth_bounds :=
      isTail_iff.1 (tail fourth (List.mem_cons_of_mem third List.mem_cons_self))
    dsimp only [assemble, List.foldl, List.length, Nat.reduceAdd, Nat.reduceShiftRight]
    unfold String.utf8EncodeChar
    rw [toNat_char (by unfold Nat.isValidChar; omega)]
    dsimp only
    rw [if_neg (by omega), if_neg (by omega), if_neg (by omega), byte_toNat lead (by omega),
      byte_toNat second (by omega), byte_toNat third (by omega), byte_toNat fourth (by omega)]

-----------------------------------------------------------------------------------------
-- Pieces
-----------------------------------------------------------------------------------------

/-- The bytes of a character at the start are scanned as that character. -/
theorem scan_encoded {c : Char} (here : String.utf8EncodeChar c <+: lead :: rest)
    : (scan lead rest).1 = some c
      ∧ String.utf8EncodeChar c = lead :: rest.take (scan lead rest).2 := by
  obtain ⟨after, whole⟩ := here
  obtain ⟨first, more, bytes, found⟩ := scan_utf8EncodeChar c after
  rw [bytes, List.cons_append] at whole
  obtain ⟨rfl, rfl⟩ := List.cons.inj whole
  rw [bytes, found, List.take_left]
  exact ⟨rfl, rfl⟩

/-- What is scanned as a character are its bytes. -/
theorem utf8EncodeChar_of_scan {c : Char} (found : (scan lead rest).1 = some c)
    : String.utf8EncodeChar c = lead :: rest.take (scan lead rest).2 := by
  unfold scan at found ⊢
  split at found
  · next low =>
      rw [if_pos low]
      obtain rfl := Option.some.inj found
      exact utf8EncodeChar_ascii (UInt8.lt_iff_toNat_lt.1 low)
  · next high =>
      rw [if_neg high]
      split at found
      · cases found
      · next follows =>
          rw [if_neg follows]
          dsimp only at found ⊢
          split at found
          · next all =>
              rw [if_pos all]
              obtain rfl := Option.some.inj found
              obtain nothing | ⟨second, more, shape, inside, fits, tail⟩ := tails_cases lead rest
              · rw [nothing] at all
                exact absurd all.symm follows
              · rw [shape] at all ⊢
                have taken : rest.take (second :: more).length = second :: more :=
                  (List.prefix_iff_eq_take.1 (inside.trans (List.take_prefix _ _))).symm
                rw [taken]
                exact utf8EncodeChar_assemble all.symm fits tail
          · cases found

-----------------------------------------------------------------------------------------
-- Ill-formed pieces
-----------------------------------------------------------------------------------------

theorem exists_fitsSecond (lead : UInt8)
    : ∃ second, fitsSecond lead second = true := by
  by_cases long : lead = 0xE0
  · exact ⟨0xA0, by rw [long]; decide⟩
  · by_cases past : lead = 0xF4
    · exact ⟨0x80, by rw [past]; decide⟩
    · refine ⟨0x90, ?_⟩
      unfold fitsSecond
      rw [if_neg long, if_neg past]
      repeat' split
      all_goals decide

/-- A lead with fewer tails than it asks for starts a character: any tails complete it. -/
theorem startsChar_of_fits (fits : fitsSecond lead second = true)
    (tail : ∀ b ∈ more, isTail b = true) (short : more.length < tailCount lead)
    : StartsChar (lead :: second :: more) := by
  let missing := List.replicate (tailCount lead - (more.length + 1)) (0x80 : UInt8)
  have count : tailCount lead = (more ++ missing).length + 1 := by
    rw [List.length_append, List.length_replicate]
    omega
  have tail' : ∀ b ∈ more ++ missing, isTail b = true := by
    intro b there
    obtain there | added := List.mem_append.1 there
    · exact tail b there
    · rw [List.eq_of_mem_replicate added]
      rfl
  exact ⟨_, missing, (utf8EncodeChar_assemble count fits tail').symm⟩

theorem startsChar_tails (follows : tailCount lead ≠ 0) (rest : List UInt8)
    : StartsChar (lead :: tails lead rest) := by
  obtain nothing | ⟨second, more, shape, inside, fits, tail⟩ := tails_cases lead rest
  · obtain ⟨second, fits⟩ := exists_fitsSecond lead
    obtain ⟨c, starts⟩ : StartsChar [lead, second] :=
      startsChar_of_fits fits nofun (Nat.pos_of_ne_zero follows)
    rw [nothing]
    exact ⟨c, (List.prefix_append [lead] [second]).trans starts⟩
  · rw [shape]
    refine startsChar_of_fits fits tail ?_
    have within := inside.length_le
    rw [List.length_cons, List.length_take] at within
    omega

/-- Fitting tails are all taken, unless there are more than the lead asks for. -/
theorem prefix_tails (fits : fitsSecond lead second = true) (tail : ∀ b ∈ more, isTail b = true)
    (short : more.length < tailCount lead) (rest : List UInt8)
    : second :: more <+: tails lead (second :: more ++ rest) := by
  obtain ⟨k, count⟩ := Nat.exists_eq_succ_of_ne_zero (Nat.ne_zero_of_lt short)
  have cut
      : (second :: more ++ rest).take (tailCount lead)
        = second :: (more ++ rest.take (k - more.length)) := by
    rw [count, List.cons_append, List.take_succ_cons, List.take_append,
      List.take_of_length_le (by omega)]
  unfold tails
  rw [cut]
  dsimp only
  rw [if_pos fits, List.takeWhile_append_of_pos tail]
  exact (List.prefix_cons_inj second).2 (List.prefix_append ..)

/-- A piece, and the bytes after it. -/
theorem cut_scan (lead : UInt8) (rest : List UInt8)
    : lead :: rest.take (scan lead rest).2 ++ rest.drop (scan lead rest).2 = lead :: rest := by
  rw [List.cons_append, List.take_append_drop]

/-- Beyond the bytes below 0x80, a piece is a lead and its tails. -/
theorem take_scan (high : ¬ lead < 0x80) (rest : List UInt8)
    : rest.take (scan lead rest).2 = tails lead rest := by
  have inside : tails lead rest <+: rest := by
    obtain nothing | ⟨second, more, shape, inside, -, -⟩ := tails_cases lead rest
    · rw [nothing]
      exact List.nil_prefix
    · rw [shape]
      exact inside.trans (List.take_prefix _ _)
  have count : (scan lead rest).2 = (tails lead rest).length := by
    unfold scan
    rw [if_neg high]
    split
    · next none => rw [tails, none]; rfl
    · dsimp only
      split <;> rfl
  rw [count]
  exact (List.prefix_iff_eq_take.1 inside).symm

/-- A start of a character that follows the lead is within its tails. -/
theorem length_le_tails (high : ¬ lead < 0x80) {start : List UInt8} (here : start <+: rest)
    (starts : StartsChar (lead :: start))
    : start.length ≤ (tails lead rest).length := by
  obtain ⟨c, after, bytes⟩ := starts
  -- all bytes of the character after its lead are tails of it
  have whole : start ++ after = tails lead (start ++ after) := by
    have here : String.utf8EncodeChar c <+: lead :: (start ++ after) :=
      bytes.symm ▸ List.prefix_rfl
    have found := (scan_encoded here).2
    rw [take_scan high, ← bytes, List.cons_append] at found
    exact (List.cons.inj found).2
  cases start with
  | nil => exact Nat.zero_le _
  | cons second more =>
      obtain ⟨further, rfl⟩ := here
      obtain nothing | ⟨_, _, shape, inside, fits, tail⟩ := tails_cases lead (second :: more ++ after)
      · rw [nothing] at whole
        cases whole
      · have within := inside.length_le
        rw [← shape, ← whole, List.length_take, List.length_append, List.length_cons] at within
        obtain ⟨rfl, rfl⟩ := List.cons.inj (whole.trans shape)
        have tail' : ∀ b ∈ more, isTail b = true := fun b there =>
          tail b (List.mem_append_left _ there)
        exact (prefix_tails fits tail' (by omega) further).length_le

/-- What is scanned as no character is ill formed. -/
theorem illFormed_of_scan (bad : (scan lead rest).1 = none)
    : IllFormed (lead :: rest.take (scan lead rest).2) (rest.drop (scan lead rest).2) := by
  have high : ¬ lead < 0x80 := by
    intro low
    rw [scan, if_pos low] at bad
    cases bad
  refine ⟨List.cons_ne_nil _ _, fun c here => ?_, ?_, fun start here starts => ?_⟩
  · rw [cut_scan] at here
    rw [(scan_encoded here).1] at bad
    cases bad
  · rw [take_scan high]
    by_cases none : tailCount lead = 0
    · refine .inr ?_
      rw [tails, none]
      rfl
    · exact .inl (startsChar_tails none rest)
  · rw [cut_scan] at here
    rw [take_scan high]
    cases start with
    | nil => exact Nat.zero_le _
    | cons b start =>
        obtain ⟨rfl, after⟩ := List.cons_prefix_cons.1 here
        exact Nat.succ_le_succ (length_le_tails high after starts)

-----------------------------------------------------------------------------------------
-- All of the bytes
-----------------------------------------------------------------------------------------

/-- The pieces, read as characters, are what the bytes spell; by induction on the pieces. -/
theorem lossy_pieces (bytes : List UInt8)
    : Lossy bytes ((pieces bytes).map (·.getD '�')) := by
  induction bytes using pieces.induct with
  | case1 =>
      rw [pieces]
      exact .done
  | case2 lead rest ih =>
      rw [pieces, List.map_cons, ← cut_scan lead rest]
      cases found : (scan lead rest).1 with
      | some c =>
          rw [← utf8EncodeChar_of_scan found]
          exact .char c ih
      | none => exact .bad (illFormed_of_scan found) ih

theorem IllFormed.length_le {bad bad' rest rest' : List UInt8} (ill : IllFormed bad rest)
    (other : IllFormed bad' rest') (same : bad ++ rest = bad' ++ rest')
    : bad.length ≤ bad'.length := by
  obtain starts | single := ill.start
  · exact other.longest bad ⟨rest, same⟩ starts
  · rw [single]
    exact List.length_pos_iff.2 other.nonempty

/-- What is ill formed at the start of some bytes is one piece of them. -/
theorem pieces_of_illFormed {bad rest : List UInt8} (ill : IllFormed bad rest)
    : pieces (bad ++ rest) = none :: pieces rest := by
  cases bad with
  | nil => exact absurd rfl ill.nonempty
  | cons lead more =>
      rw [List.cons_append, pieces]
      cases found : (scan lead (more ++ rest)).1 with
      | some c =>
          refine absurd ?_ (ill.noChar c)
          rw [utf8EncodeChar_of_scan found, List.cons_append]
          exact (List.prefix_cons_inj lead).2 (List.take_prefix _ _)
      | none =>
          have scanned := illFormed_of_scan found
          have same := (cut_scan lead (more ++ rest)).symm
          have long := Nat.le_antisymm (ill.length_le scanned same) (scanned.length_le ill same.symm)
          rw [← (List.append_inj same long).2]

/-- Reading gives what the bytes spell, and nothing else; by induction on what they spell. -/
theorem lossy_iff {bytes : List UInt8} {cs : List Char}
    : Lossy bytes cs ↔ decode bytes = String.ofList cs := by
  constructor
  · intro spelt
    unfold decode
    congr 1
    induction spelt with
    | done => rw [pieces]; rfl
    | char c next ih => rw [pieces_utf8EncodeChar, List.map_cons, ih, Option.getD_some]
    | bad ill next ih => rw [pieces_of_illFormed ill, List.map_cons, ih, Option.getD_none]
  · intro same
    rw [← String.ofList_injective same]
    exact lossy_pieces bytes

-----------------------------------------------------------------------------------------
-- Bytes without an ill-formed piece
-----------------------------------------------------------------------------------------

/-- Where every piece is a character, the bytes are those of the characters; by induction on the pieces. -/
theorem eq_of_pieces {bytes : List UInt8} {cs : List Char}
    (found : (pieces bytes).mapM id = some cs)
    : bytes = cs.flatMap String.utf8EncodeChar := by
  induction bytes using pieces.induct generalizing cs with
  | case1 =>
      rw [pieces] at found
      cases found
      rfl
  | case2 lead rest ih =>
      rw [pieces, List.mapM_cons] at found
      obtain ⟨c, here, found⟩ := Option.bind_eq_some_iff.1 found
      obtain ⟨more, next, same⟩ := Option.bind_eq_some_iff.1 found
      obtain rfl := Option.some.inj same
      rw [List.flatMap_cons, utf8EncodeChar_of_scan here, ← ih next, cut_scan]

/-- Bytes are a text only if they are the bytes of that text. -/
theorem decode?_eq_some_iff {bytes : List UInt8} {s : String}
    : decode? bytes = some s ↔ bytes = encode s := by
  constructor
  · intro read
    obtain ⟨cs, found, rfl⟩ := Option.map_eq_some_iff.1 read
    rw [encode, String.toList_ofList]
    exact eq_of_pieces found
  · rintro rfl
    exact decode?_encode s

end Custody.Utf8
