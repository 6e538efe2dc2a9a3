import Custody.Text.Blank
import Mathlib.Data.List.DropRight

/-!
What is left of a text without the blanks at its ends, told from the text alone: only blanks stand before
and after it, and it neither starts nor ends with one. Main statement: `trims_iff`, by which this is what
`trim` leaves, and nothing else is.
-/

namespace Custody.Blank

/-- The characters with the property White_Space, one by one. -/
def whiteSpace : List Char :=
  ['\t', '\n', '\x0b', '\x0c', '\r', ' ', '\x85', '\xa0', '\u1680', '\u2000', '\u2001', '\u2002', '\u2003',
    '\u2004', '\u2005', '\u2006', '\u2007', '\u2008', '\u2009', '\u200a', '\u2028', '\u2029', '\u202f',
    '\u205f', '\u3000']

/-- A text, and the word that the blanks at its ends leave of it. -/
structure Trims (text word : String) : Prop where
  around
    : ∃ front back,
        text.toList = front ++ word.toList ++ back
        ∧ (∀ c ∈ front, c ∈ whiteSpace)
        ∧ ∀ c ∈ back, c ∈ whiteSpace
  first : ∀ c, word.toList.head? = some c → c ∉ whiteSpace
  last : ∀ c, word.toList.getLast? = some c → c ∉ whiteSpace

/-- The ranges hold these characters and no others. -/
theorem isBlank_iff {c : Char}
    : isBlank c = true ↔ c ∈ whiteSpace := by
  simp only [isBlank, ranges, whiteSpace, List.any_cons, List.any_nil, Bool.or_false, Bool.or_eq_true,
    Bool.and_eq_true, decide_eq_true_eq, List.mem_cons, List.not_mem_nil, or_false, ← Char.toNat_inj,
    Char.reduceToNat]
  omega

/-- What is dropped from a start that does not pass the test is nothing. -/
theorem dropWhile_of_head? {p : Char → Bool} {cs : List Char}
    (stays : ∀ c, cs.head? = some c → p c ≠ true)
    : cs.dropWhile p = cs := by
  cases cs with
  | nil => rfl
  | cons c rest => exact List.dropWhile_cons_of_neg (stays c rfl)

/-- What is left of a text is a word of it, whose ends are those at which the dropping stopped. -/
theorem trims_trim (text : String)
    : Trims text (trim text) := by
  let rest := text.toList.dropWhile isBlank
  have left : (trim text).toList = rest.rdropWhile isBlank := String.toList_ofList
  constructor
  · refine ⟨text.toList.takeWhile isBlank, rest.rtakeWhile isBlank, ?_, ?_, ?_⟩
    · rw [left, List.append_assoc, List.rdropWhile_append_rtakeWhile, List.takeWhile_append_dropWhile]
    · intro c front
      exact isBlank_iff.1 (List.mem_takeWhile_imp front)
    · intro c back
      exact isBlank_iff.1 (List.mem_rtakeWhile_imp back)
  · intro c here blank
    obtain ⟨more, whole⟩ := left ▸ List.rdropWhile_prefix isBlank (l := rest)
    have first : rest.head? = some c := by
      rw [← whole, List.head?_append, here, Option.some_or]
    have stopped := List.head?_dropWhile_not isBlank text.toList
    simp only [rest] at first
    rw [first] at stopped
    exact Bool.false_ne_true (stopped.symm.trans (isBlank_iff.2 blank))
  · intro c here blank
    have some : rest.rdropWhile isBlank ≠ [] := by
      rintro none
      rw [left, none] at here
      cases here
    rw [left, List.getLast?_eq_some_getLast some] at here
    have stopped := List.rdropWhile_last_not isBlank rest some
    rw [Option.some.inj here] at stopped
    exact stopped (isBlank_iff.2 blank)

/-- Between blanks, a word that neither starts nor ends with one is what is left. -/
theorem Trims.trim_eq {text word : String} (trims : Trims text word)
    : trim text = word := by
  obtain ⟨front, back, whole, before, after⟩ := trims.around
  have before' : ∀ c ∈ front, isBlank c = true := fun c here => isBlank_iff.2 (before c here)
  have after' : ∀ c ∈ back, isBlank c = true := fun c here => isBlank_iff.2 (after c here)
  have ends : word.toList.reverse.dropWhile isBlank = word.toList.reverse := by
    apply dropWhile_of_head?
    intro c here blank
    rw [List.head?_reverse] at here
    exact trims.last c here (isBlank_iff.1 blank)
  apply String.toList_injective
  show String.toList (String.ofList _) = word.toList
  rw [String.toList_ofList, whole, List.append_assoc, List.dropWhile_append_of_pos before']
  cases shape : word.toList with
  | nil =>
      -- nothing but blanks, and none of them stops the dropping from the start
      rw [List.nil_append, List.dropWhile_eq_nil_iff.2 after']
      rfl
  | cons c more =>
      have starts : ¬ isBlank c = true := by
        intro blank
        exact trims.first c (by rw [shape]; rfl) (isBlank_iff.1 blank)
      rw [List.cons_append, List.dropWhile_cons_of_neg starts, ← List.cons_append, ← shape,
        List.reverse_append, List.dropWhile_append_of_pos, ends, List.reverse_reverse]
      intro d here
      exact after' d (List.mem_reverse.1 here)

theorem trims_iff {text word : String}
    : Trims text word ↔ trim text = word := by
  constructor
  · exact Trims.trim_eq
  · rintro rfl
    exact trims_trim text

end Custody.Blank
