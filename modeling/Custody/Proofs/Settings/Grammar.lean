import Custody.Settings
import Custody.Text.Blank.Trimming
import Custody.Text.Utf8.Lossy
import Mathlib.Data.Nat.Digits.Defs

/-! What an environment has to hold for each setting to take each of its values. A variable holds a word, the
text of its bytes without the blanks at its ends; the setting is what the word spells, and the default where
there is no word or it spells nothing.
-/

namespace Custody.Settings

-----------------------------------------------------------------------------------------
-- Numbers
-----------------------------------------------------------------------------------------

/-- The characters are the digits of a number, one or more, the one of the highest place first. Zeros may stand
in front.
-/
def SpellsBare (chars : List Char) (n : Nat) : Prop :=
  ∃ digits : List Nat,
    chars = digits.map Nat.digitChar
    ∧ digits ≠ []
    ∧ (∀ d ∈ digits, d < 10)
    ∧ n = Nat.ofDigits 10 digits.reverse

/-- The characters spell a number in decimal: its digits, or a plus sign and its digits. -/
def Spells (chars : List Char) (n : Nat) : Prop :=
  SpellsBare chars n ∨ ∃ rest, chars = '+' :: rest ∧ SpellsBare rest n

/-- Digits are read by their places, by induction from the last. -/
theorem decimal_digits {digits : List Nat} (below : ∀ d ∈ digits, d < 10)
    : decimal (digits.map Nat.digitChar) = Nat.ofDigits 10 digits.reverse := by
  induction digits using List.reverseRecOn with
  | nil => rfl
  | append_singleton front d ih =>
      have before := ih fun e here => below e (List.mem_append_left _ here)
      have last : d < 10 := below d (by simp)
      rw [List.reverse_append, List.reverse_singleton, List.singleton_append, Nat.ofDigits_cons, ← before]
      simp [decimal, Nat.toNat_digitChar_of_lt_ten last, Nat.add_comm]

/-- Characters that are digits are those of numbers below ten, by list induction. -/
theorem exists_digits {chars : List Char} (all : ∀ c ∈ chars, c.isDigit = true)
    : ∃ digits : List Nat, chars = digits.map Nat.digitChar ∧ ∀ d ∈ digits, d < 10 := by
  induction chars with
  | nil => exact ⟨[], rfl, nofun⟩
  | cons c rest ih =>
      obtain ⟨digits, rfl, below⟩ := ih fun d here => all d (List.mem_cons_of_mem c here)
      obtain ⟨low, high⟩ := Char.isDigit_iff_toNat.1 (all c List.mem_cons_self)
      simp only [Char.reduceToNat] at low high
      have small : c.toNat - 48 < 10 := by omega
      have same : Nat.digitChar (c.toNat - 48) = c := by
        apply Char.toNat_inj.1
        rw [Nat.toNat_digitChar_of_lt_ten small]
        omega
      refine ⟨(c.toNat - 48) :: digits, by rw [List.map_cons, same], ?_⟩
      intro d here
      rcases List.mem_cons.1 here with rfl | later
      · exact small
      · exact below d later

/-- Characters are read as a number without a sign if they are digits, and there is one. -/
theorem decimal_iff_spellsBare {chars : List Char} {n : Nat}
    : (if !chars.isEmpty && chars.all Char.isDigit then some (decimal chars) else none) = some n
      ↔ SpellsBare chars n := by
  constructor
  · intro read
    obtain ⟨shape, value⟩ := Option.ite_none_right_eq_some.1 read
    simp only [Bool.and_eq_true, Bool.not_eq_true', List.all_eq_true] at shape
    obtain ⟨digits, rfl, below⟩ := exists_digits shape.2
    refine ⟨digits, rfl, ?_, below, ?_⟩
    · rintro rfl
      cases shape.1
    · rw [← Option.some.inj value, decimal_digits below]
  · rintro ⟨digits, rfl, some, below, rfl⟩
    rw [decimal_digits below]
    apply if_pos
    simpa [some, Nat.isDigit_digitChar] using below

/-- No digit is a sign. -/
theorem SpellsBare.unsigned {chars : List Char} {n : Nat} (bare : SpellsBare chars n)
    : ¬ ∃ rest, chars = '+' :: rest := by
  rintro ⟨rest, signed⟩
  obtain ⟨digits, rfl, -, below, -⟩ := bare
  have plus : '+' ∈ digits.map Nat.digitChar := by
    rw [signed]
    exact List.mem_cons_self
  obtain ⟨d, there, here⟩ := List.mem_map.1 plus
  have digit : (Nat.digitChar d).isDigit = true := by
    simp [Nat.isDigit_digitChar, below d there]
  rw [here] at digit
  cases digit

/-- Where there is no sign, all characters are to be digits. -/
theorem unsigned?_of_unsigned {chars : List Char} (unsigned : ¬ ∃ rest, chars = '+' :: rest)
    : unsigned? chars
      = if !chars.isEmpty && chars.all Char.isDigit then some (decimal chars) else none := by
  unfold unsigned?
  split
  · next rest => exact absurd ⟨rest, rfl⟩ unsigned
  · rfl

/-- What is read as a number are the spellings of numbers, with a sign or without. -/
theorem unsigned?_eq_some_iff {chars : List Char} {n : Nat}
    : unsigned? chars = some n ↔ Spells chars n := by
  constructor
  · intro read
    by_cases signed : ∃ rest, chars = '+' :: rest
    · obtain ⟨rest, rfl⟩ := signed
      exact .inr ⟨rest, rfl, decimal_iff_spellsBare.1 read⟩
    · rw [unsigned?_of_unsigned signed] at read
      exact .inl (decimal_iff_spellsBare.1 read)
  · rintro (bare | ⟨rest, rfl, bare⟩)
    · rw [unsigned?_of_unsigned bare.unsigned]
      exact decimal_iff_spellsBare.2 bare
    · exact decimal_iff_spellsBare.2 bare

-----------------------------------------------------------------------------------------
-- Words
-----------------------------------------------------------------------------------------

/-- A variable holds a word: it is set, to the bytes of a text, of which the word is left without the blanks at
its ends.
-/
def Holds (bytes : Option (List UInt8)) (word : String) : Prop :=
  ∃ text, bytes = some (Utf8.encode text) ∧ Blank.Trims text word

/-- A variable asks for a value: it holds a word that spells the value. -/
def Asks {α : Type} (spells : String → α → Prop) (bytes : Option (List UInt8)) (a : α) : Prop :=
  ∃ word, Holds bytes word ∧ spells word a

/-- The spellings of a switch. -/
def SpellsSwitch (word : String) (on : Bool) : Prop :=
  on = true ∧ word ∈ ["1", "true", "TRUE", "yes", "YES"]
  ∨ on = false ∧ word ∈ ["0", "false", "FALSE", "no", "NO"]

/-- The spellings of a count: of a number that is not zero and fits in 32 bits. -/
def SpellsCount (word : String) (n : Nat) : Prop :=
  Spells word.toList n ∧ 1 ≤ n ∧ n ≤ 0xFFFFFFFF

/-- A word that is not empty stands for itself. -/
def SpellsItself (word text : String) : Prop :=
  word ≠ "" ∧ text = word

theorem switch?_eq_some_iff (text : String) (on : Bool)
    : switch? text = some on ↔ SpellsSwitch (Blank.trim text) on := by
  have apart
      : ∀ word ∈ ["0", "false", "FALSE", "no", "NO"], word ∉ ["1", "true", "TRUE", "yes", "YES"] := by
    decide
  unfold switch?
  dsimp only
  constructor
  · intro read
    split at read
    · next yes => exact .inl ⟨(Option.some.inj read).symm, yes⟩
    · split at read
      · next no => exact .inr ⟨(Option.some.inj read).symm, no⟩
      · cases read
  · rintro (⟨rfl, yes⟩ | ⟨rfl, no⟩)
    · exact if_pos yes
    · rw [if_neg (apart _ no), if_pos no]

theorem count?_eq_some_iff (text : String) (n : Nat)
    : count? text = some n ↔ SpellsCount (Blank.trim text) n := by
  unfold count?
  rw [Option.filter_eq_some_iff, unsigned?_eq_some_iff]
  apply and_congr_right
  intro _
  simp only [Bool.and_eq_true, decide_eq_true_eq, UInt32.size]
  omega

theorem filled?_eq_some_iff (text word : String)
    : filled? text = some word ↔ SpellsItself (Blank.trim text) word := by
  unfold filled?
  dsimp only
  rw [Option.ite_none_left_eq_some]
  apply and_congr_right
  intro _
  exact Option.some_inj.trans eq_comm

/-- If a text is read as what its word spells, a setting is what its variable asks for, and the default if that
asks for nothing.
-/
theorem setting_eq_iff {α : Type} {read : String → Option α} {spells : String → α → Prop}
    (reads : ∀ text a, read text = some a ↔ spells (Blank.trim text) a)
    (bytes : Option (List UInt8)) (fallback a : α)
    : ((bytes.bind Utf8.decode?).bind read).getD fallback = a
      ↔ Asks spells bytes a ∨ a = fallback ∧ ∀ b, ¬ Asks spells bytes b := by
  have asks (b : α) : (bytes.bind Utf8.decode?).bind read = some b ↔ Asks spells bytes b := by
    constructor
    · intro found
      obtain ⟨text, decoded, value⟩ := Option.bind_eq_some_iff.1 found
      obtain ⟨encoded, rfl, decoded⟩ := Option.bind_eq_some_iff.1 decoded
      obtain rfl := Utf8.decode?_eq_some_iff.1 decoded
      exact ⟨Blank.trim text, ⟨text, rfl, Blank.trims_iff.2 rfl⟩, (reads _ _).1 value⟩
    · rintro ⟨word, ⟨text, rfl, trims⟩, spelt⟩
      rw [Option.bind_some, Utf8.decode?_encode, Option.bind_some, reads, Blank.trims_iff.1 trims]
      exact spelt
  simp only [← asks]
  cases (bytes.bind Utf8.decode?).bind read with
  | none => simp [eq_comm]
  | some b => simp

-----------------------------------------------------------------------------------------
-- Settings
-----------------------------------------------------------------------------------------

/-- Every setting takes a value exactly where its own variable asks for it, or where the value is the default
and the variable asks for none; so the length that draws a warning is never zero. Bytes that are no text hold
no word, and the other variables have no part in it.
-/
theorem settings_asked_for (v : Variables)
    : let c := ofVariables v
      (c.deferAll = true ↔ ∃ word ∈ ["1", "true", "TRUE", "yes", "YES"], Holds v.deferAll word)
      ∧ (∀ n,
          c.deferWarn = n
          ↔ Asks SpellsCount v.deferWarn n ∨ n = 4096 ∧ ∀ m, ¬ Asks SpellsCount v.deferWarn m)
      ∧ (1 ≤ c.deferWarn ∧ c.deferWarn ≤ 0xFFFFFFFF)
      ∧ (∀ text,
          c.logFilter = text
          ↔ Holds v.logFilter text ∧ text ≠ ""
            ∨ text = "warn" ∧ ∀ word, Holds v.logFilter word → word = "")
      ∧ (∀ deferWarn logFilter, (ofVariables { v with deferWarn, logFilter }).deferAll = c.deferAll)
      ∧ (∀ deferAll logFilter, (ofVariables { v with deferAll, logFilter }).deferWarn = c.deferWarn)
      ∧ (∀ deferAll deferWarn,
          (ofVariables { v with deferAll, deferWarn }).logFilter = c.logFilter) := by
  intro c
  have switch := setting_eq_iff switch?_eq_some_iff v.deferAll false true
  have count := setting_eq_iff count?_eq_some_iff v.deferWarn 4096
  have filter := setting_eq_iff filled?_eq_some_iff v.logFilter "warn"
  refine ⟨switch.trans ?_, count, ?_, fun text => (filter text).trans ?_, fun _ _ => rfl, fun _ _ => rfl,
    fun _ _ => rfl⟩
  · constructor
    · rintro (⟨word, here, ⟨-, on⟩ | ⟨off, -⟩⟩ | ⟨off, -⟩)
      · exact ⟨word, on, here⟩
      · cases off
      · cases off
    · rintro ⟨word, on, here⟩
      exact .inl ⟨word, here, .inl ⟨rfl, on⟩⟩
  · rcases (count c.deferWarn).1 rfl with ⟨word, -, -, low, high⟩ | ⟨same, -⟩
    · exact ⟨low, high⟩
    · rw [same]
      decide
  · have itself (text : String)
        : Asks SpellsItself v.logFilter text ↔ Holds v.logFilter text ∧ text ≠ "" := by
      constructor
      · rintro ⟨word, here, filled, rfl⟩
        exact ⟨here, filled⟩
      · rintro ⟨here, filled⟩
        exact ⟨text, here, filled, rfl⟩
    simp only [itself, not_and, not_not]

/-- Zeros in front and wide blanks around a number make no difference; capitals and bytes that are no text do. -/
example
    : ofVariables {
        deferAll := some (Utf8.encode " Yes\n")
        deferWarn := some (Utf8.encode "\u3000+0000000000012\u2003")
        logFilter := some [0x61, 0xFF] }
      = { deferAll := false, deferWarn := 12, logFilter := "warn" } := by
  cbv

end Custody.Settings
