import Custody.ArgumentType
import Custody.Body
import Custody.Text.ZeroTerminated

/-! What the signature of a body tells about its first value.
A structure and a dictionary entry are written in brackets, and no type has a bracket as its letter.
-/

namespace Custody

/-- Every code of a body, at every depth, is the letter of a type. -/
def Body.wellCoded : Body → Bool
  | .empty => true
  | .scalar code _ rest => (ArgumentType.ofCode? code).isSome && rest.wellCoded
  | .container code items rest =>
      (ArgumentType.ofCode? code).isSome && items.wellCoded && rest.wellCoded

/-- The type of the first value, by its code. -/
def Body.type? (b : Body) : Option ArgumentType :=
  b.code?.bind ArgumentType.ofCode?

/-- Whether the first value is a structure or a dictionary entry with values inside. -/
def Body.opensRecord : Body → Bool
  | .container code _ _ => code = 'r' || code = 'e'
  | _ => false

/-- The type that the first letter of the signature names. -/
def Body.toldType (b : Body) : Option ArgumentType :=
  b.signature.toList.head?.bind ArgumentType.ofCode?

/-- The type that a reader is shown, who gets the signature as it can be stored. -/
def Body.shownType (b : Body) : Option ArgumentType :=
  (ZeroTerminated.kept b.signature).toList.head?.bind ArgumentType.ofCode?

theorem ZeroTerminated.fits_append (a b : String)
    : fits (a ++ b) = (fits a && fits b) := by
  simp [fits]

theorem ZeroTerminated.fits_toString (c : Char)
    : fits c.toString = (c != '\x00') := by
  simp [fits, Char.toString]

theorem ZeroTerminated.kept_of_fits {s : String} (fit : fits s = true)
    : kept s = s :=
  if_pos fit

/-- No type has NUL as its letter. -/
theorem ArgumentType.ne_nul_of_ofCode? {c : Char} (letter : (ofCode? c).isSome = true)
    : (c != '\x00') = true := by
  have nul : ofCode? '\x00' = none := rfl
  simp only [bne_iff_ne, ne_eq]
  rintro rfl
  simp [nul] at letter

theorem ArgumentType.code_ne_nul (t : ArgumentType)
    : t.code ≠ '\x00' := by
  cases t <;> decide

/-- No basic type has the letter of an array. -/
theorem ArgumentType.code_ne_array (t : ArgumentType) (basic : t.isBasic = true)
    : t.code ≠ 'a' := by
  cases t <;> first | decide | simp [isBasic, isContainer] at basic

theorem Scalar.fits_signature (value : Scalar) {code : Char} (letter : (code != '\x00') = true)
    : ZeroTerminated.fits (value.signature code) = true := by
  have plain : ZeroTerminated.fits code.toString = true := by
    rw [ZeroTerminated.fits_toString, letter]
  cases value with
  | bytes block =>
      by_cases array : code = 'a'
      · simp [signature, array]
        rfl
      · simpa [signature, array] using plain
  | int _ | uint _ | double _ | text _ => exact plain

theorem Body.fits_boxSignature {code : Char} {first all : String} (letter : (code != '\x00') = true)
    (head : ZeroTerminated.fits first = true) (whole : ZeroTerminated.fits all = true)
    : ZeroTerminated.fits (boxSignature code first all) = true := by
  unfold boxSignature
  split
  · rw [ZeroTerminated.fits_append, head]
    rfl
  · split
    · simp only [ZeroTerminated.fits_append, whole]
      rfl
    · split
      · simp only [ZeroTerminated.fits_append, whole]
        rfl
      · rw [ZeroTerminated.fits_toString, letter]

/-- The signature of letters holds no NUL, with that of the first value beside it. -/
theorem Body.fits_signatures {b : Body} (coded : b.wellCoded = true)
    : ZeroTerminated.fits b.firstSignature = true ∧ ZeroTerminated.fits b.signature = true := by
  induction b with
  | empty => exact ⟨rfl, rfl⟩
  | scalar code value rest ih =>
      simp only [wellCoded, Bool.and_eq_true] at coded
      obtain ⟨letter, tail⟩ := coded
      have first := value.fits_signature (ArgumentType.ne_nul_of_ofCode? letter)
      refine ⟨first, ?_⟩
      rw [signature_scalar, ZeroTerminated.fits_append, first, (ih tail).2]
      rfl
  | container code items rest ihItems ihRest =>
      simp only [wellCoded, Bool.and_eq_true] at coded
      obtain ⟨⟨letter, inside⟩, tail⟩ := coded
      have box := fits_boxSignature (ArgumentType.ne_nul_of_ofCode? letter)
        (ihItems inside).1 (ihItems inside).2
      refine ⟨box, ?_⟩
      rw [signature_container, ZeroTerminated.fits_append, box, (ihRest tail).2]
      rfl

theorem Scalar.head?_signature (code : Char) (value : Scalar) (rest : String)
    : (value.signature code ++ rest).toList.head? = some code := by
  cases value with
  | bytes block =>
      by_cases array : code = 'a'
      · simp [signature, array]
      · simp [signature, array, Char.toString]
  | int _ | uint _ | double _ | text _ => simp [signature, Char.toString]

theorem Body.head?_boxSignature (code : Char) (first all rest : String)
    : (boxSignature code first all ++ rest).toList.head?
      = some (if code = 'r' then '(' else if code = 'e' then '\x7b' else code) := by
  unfold boxSignature
  split
  · next array => simp [array]
  · split
    · simp
    · split <;> simp [Char.toString]

/-- The signature tells the type of the first value, unless that is a record. -/
theorem Body.toldType_eq (b : Body)
    : b.toldType = if b.opensRecord then none else b.type? := by
  cases b with
  | empty => rfl
  | scalar code value rest =>
      rw [toldType, signature_scalar, Scalar.head?_signature]
      rfl
  | container code items rest =>
      have round : ArgumentType.ofCode? '(' = none := rfl
      have brace : ArgumentType.ofCode? '\x7b' = none := rfl
      rw [toldType, signature_container, head?_boxSignature, Option.bind_some]
      by_cases struct : code = 'r'
      · simp [opensRecord, struct, round]
      · by_cases entry : code = 'e'
        · simp [opensRecord, entry, brace]
        · simp [opensRecord, struct, entry, type?, code?]

theorem Body.toldType_of_code? {b : Body} {t : ArgumentType} (head : b.code? = some t.code)
    (plain : b.opensRecord = false)
    : b.toldType = some t := by
  rw [toldType_eq, plain, type?, head]
  exact ArgumentType.ofCode?_code t

theorem ArgumentType.code_of_ofCode? {c : Char} {t : ArgumentType} (named : ofCode? c = some t)
    : t.code = c := by
  have found := List.find?_some named
  exact eq_of_beq found

theorem Body.shownType_eq (b : Body)
    : b.shownType = if ZeroTerminated.fits b.signature then b.toldType else none := by
  cases fit : ZeroTerminated.fits b.signature <;>
    simp [shownType, toldType, ZeroTerminated.kept, fit]

theorem Body.shownType_of_wellCoded {b : Body} (coded : b.wellCoded = true)
    : b.shownType = b.toldType := by
  rw [shownType_eq, if_pos (fits_signatures coded).2]

/-- The type that is shown is that of the first value. -/
theorem Body.code?_of_shownType {b : Body} {t : ArgumentType} (shown : b.shownType = some t)
    : b.code? = some t.code := by
  rw [shownType_eq, toldType_eq] at shown
  split at shown
  · split at shown
    · simp at shown
    · obtain ⟨c, head, named⟩ := Option.bind_eq_some_iff.1 shown
      rw [head, ArgumentType.code_of_ofCode? named]
  · simp at shown

/-- A first value under a letter has a type. -/
theorem Body.type?_eq_none_iff {b : Body} (coded : b.wellCoded = true)
    : b.type? = none ↔ b = .empty := by
  cases b with
  | empty => exact ⟨fun _ => rfl, fun _ => rfl⟩
  | scalar code value rest =>
      simp only [wellCoded, Bool.and_eq_true] at coded
      simp [type?, code?, Option.isSome_iff_ne_none.1 coded.1]
  | container code items rest =>
      simp only [wellCoded, Bool.and_eq_true] at coded
      simp [type?, code?, Option.isSome_iff_ne_none.1 coded.1.1]

end Custody
