import Custody.Proofs.Writing.Containers

/-! What a write adds to the signature. A message keeps the signature of its values beside them, and a
container that is written keeps one too; a container that is closed adds to its parent the signature it
was opened with, or brackets around that of the values inside.
-/

namespace Custody

/-- The signature that a container is written under, from the one it is opened with and that of the
values inside.
-/
def ArgumentType.enclose (t : ArgumentType) (contained inside : String) : String :=
  match t with
  | .array => "a" ++ contained
  | .struct => "(" ++ inside ++ ")"
  | .dictEntry => "\x7b" ++ inside ++ "\x7d"
  | t => t.letter

theorem ArgumentType.fits_letter (t : ArgumentType)
    : ZeroTerminated.fits t.letter = true := by
  cases t <;> decide

theorem ArgumentType.fits_enclose (t : ArgumentType) {contained inside : String}
    (outer : ZeroTerminated.fits contained = true) (inner : ZeroTerminated.fits inside = true)
    : ZeroTerminated.fits (t.enclose contained inside) = true := by
  cases t with
  | array =>
      rw [enclose, ZeroTerminated.fits_append, outer]
      rfl
  | struct | dictEntry =>
      simp only [enclose, ZeroTerminated.fits_append, inner]
      rfl
  | _ => exact fits_letter _

/-- A position is closed under the signature of its type. -/
theorem Native.BodyCursor.closedSignature_eq {c : Native.BodyCursor} {t : ArgumentType}
    (code : c.code = t.code)
    : c.closedSignature = t.enclose c.contained c.signature := by
  rw [closedSignature, code]
  cases t <;> rfl

namespace State

/-- The signature kept beside the values of a site. -/
def signed (s : State) : Site → String
  | .top m => (s.message m).signature
  | .inside q => (s.bodyCursor q).signature

/-- The second state is the first after changes at one site, to its values or their signature. -/
structure ChangedAt (e : Site) (s t : State) : Prop extends Touched e s t where
  signatures : ∀ d, s.HasSite d → d ≠ e → t.signed d = s.signed d
  contained
    : ∀ q : Ref Native.BodyCursor,
        q.index < s.cursorCount → (t.bodyCursor q).contained = (s.bodyCursor q).contained

/-- The second state is the first after values were written at the end of a site, and a signature
beside them.
-/
structure Signed (e : Site) (values : Body) (text : String) (s t : State) : Prop
    extends ChangedAt e s t where
  written : t.written e = s.written e ++ values
  fits : ZeroTerminated.fits text = true
  signed : ZeroTerminated.fits (s.signed e) = true → t.signed e = s.signed e ++ text

variable {s t u v : State} {d e : Site} {a b : Body} {x y : String} {q : Ref Native.BodyCursor}

namespace ChangedAt

theorem refl (e : Site) (s : State)
    : ChangedAt e s s where
  toTouched := .refl e s
  signatures _ _ _ := rfl
  contained _ _ := rfl

theorem trans (first : ChangedAt e s t) (second : ChangedAt e t u)
    : ChangedAt e s u where
  toTouched := first.toTouched.trans second.toTouched
  signatures d has ne := by
    rw [second.signatures d (has.mono first.count) ne, first.signatures d has ne]
  contained q old := by
    rw [second.contained q (Nat.lt_of_lt_of_le old first.count), first.contained q old]

/-- Changes at a site that was not there do not count. -/
theorem aside (first : ChangedAt e s t) (second : ChangedAt d t u) (new : ¬ s.HasSite d)
    : ChangedAt e s u where
  toTouched := first.toTouched.aside second.toTouched new
  signatures d' has ne := by
    have apart : d' ≠ d := by
      rintro rfl
      exact new has
    rw [second.signatures d' (has.mono first.count) apart, first.signatures d' has ne]
  contained q old := by
    rw [second.contained q (Nat.lt_of_lt_of_le old first.count), first.contained q old]

end ChangedAt

namespace Signed

theorem wrote (done : Signed e a x s t)
    : Wrote e a s t :=
  ⟨done.toTouched, done.written⟩

theorem refl (e : Site) (s : State)
    : Signed e .empty "" s s where
  toChangedAt := .refl e s
  written := (Body.append_empty _).symm
  fits := rfl
  signed _ := String.append_empty.symm

theorem trans (first : Signed e a x s t) (second : Signed e b y t u)
    : Signed e (a ++ b) (x ++ y) s u where
  toChangedAt := first.toChangedAt.trans second.toChangedAt
  written := by rw [second.written, first.written, Body.append_assoc]
  fits := by rw [ZeroTerminated.fits_append, first.fits, second.fits]; rfl
  signed fit := by
    have sofar := first.signed fit
    have fitNow : ZeroTerminated.fits (t.signed e) = true := by
      rw [sofar, ZeroTerminated.fits_append, fit, first.fits]
      rfl
    rw [second.signed fitNow, sofar, String.append_assoc]

/-- Changes at a site that was not there do not count. -/
theorem aside (first : Signed e a x s t) (second : ChangedAt d t u) (has : s.HasSite e)
    (new : ¬ s.HasSite d)
    : Signed e a x s u where
  toChangedAt := first.toChangedAt.aside second new
  written := (first.wrote.aside second.toTouched has new).written
  fits := first.fits
  signed fit := by
    have apart : e ≠ d := by
      rintro rfl
      exact new has
    rw [second.signatures e (has.mono first.count) apart, first.signed fit]

end Signed

-----------------------------------------------------------------------------------------
-- Single writes
-----------------------------------------------------------------------------------------

theorem changed_setMessage (s : State) (m : Ref Native.Message) (c : Native.Message)
    : ChangedAt (.top m) s (s.setMessage m c) where
  toTouched := touched_setMessage s m c
  signatures d _ ne := by
    cases d with
    | top m' =>
        have other : m' ≠ m := fun same => ne (congrArg _ same)
        exact congrArg Native.Message.signature (Heap.get_put_of_ne _ _ other)
    | inside q => rfl
  contained _ _ := rfl

theorem signed_pushMessage (s : State) (m : Ref Native.Message) (values : Body) {text : String}
    (fits : ZeroTerminated.fits text = true)
    : Signed (.top m) values text s (s.setMessage m ((s.message m).push values text)) where
  toChangedAt := changed_setMessage s m _
  written := (wrote_pushMessage s m values text).written
  fits := fits
  signed fit := by
    have pushed := congrArg Native.Message.signature
      (Heap.get_put_self s.world.messages m ((s.message m).push values text))
    refine pushed.trans (ZeroTerminated.kept_of_fits ?_)
    have whole : ZeroTerminated.fits (s.message m).signature = true := fit
    rw [ZeroTerminated.fits_append, whole, fits]
    rfl

theorem changed_setBodyCursor (old : q.index < s.cursorCount) {c : Native.BodyCursor}
    (target : c.target = (s.bodyCursor q).target) (code : c.code = (s.bodyCursor q).code)
    (contained : c.contained = (s.bodyCursor q).contained)
    : ChangedAt (.inside q) s (s.setBodyCursor q c) where
  toTouched := touched_setBodyCursor old target code
  signatures d _ ne := by
    cases d with
    | top m => rfl
    | inside p =>
        have other : p ≠ q := fun same => ne (congrArg _ same)
        exact congrArg Native.BodyCursor.signature (bodyCursor_setBodyCursor_of_ne s c other)
  contained p _ := Heap.keeps_put _ contained p

theorem signed_pushInside (old : q.index < s.cursorCount) (values : Body) {text : String}
    (fits : ZeroTerminated.fits text = true)
    : Signed (.inside q) values text s
        (s.setBodyCursor q ((s.bodyCursor q).push values text)) where
  toChangedAt := changed_setBodyCursor old rfl rfl rfl
  written := congrArg Native.BodyCursor.items (bodyCursor_setBodyCursor_self s q _)
  fits := fits
  signed _ := congrArg Native.BodyCursor.signature (bodyCursor_setBodyCursor_self s q _)

theorem signed_push (old : q.index < s.cursorCount) (values : Body) {text : String}
    (fits : ZeroTerminated.fits text = true)
    : Signed (s.site q) values text s (s.push q values text) := by
  unfold push State.site
  cases (s.bodyCursor q).target with
  | none => exact signed_pushInside old values fits
  | some m => exact signed_pushMessage s m values fits

theorem changed_newBodyCursor (e : Site) (s : State) (c : Native.BodyCursor)
    : ChangedAt e s (s.newBodyCursor c).2 where
  toTouched := touched_newBodyCursor e s c
  signatures d has _ := by
    cases d with
    | top m => rfl
    | inside q => rw [signed, signed, s.bodyCursor_newBodyCursor_of_old c has]
  contained q old := by rw [s.bodyCursor_newBodyCursor_of_old c old]

/-- A new position has nothing written yet, whatever it is made for. -/
theorem signed_newBodyCursor (has : s.HasSite e) (c : Native.BodyCursor)
    : Signed e .empty "" s (s.newBodyCursor c).2 where
  toChangedAt := changed_newBodyCursor e s c
  written := (wrote_newBodyCursor has c).written
  fits := rfl
  signed _ := by
    rw [String.append_empty]
    cases e with
    | top m => rfl
    | inside q => rw [signed, signed, s.bodyCursor_newBodyCursor_of_old c has]

end State

open State

variable {s t u v : State} {q : Ref Native.BodyCursor} {k : ArgumentType}
variable {contained : Option String} {c : BodyCursor}

/-- While a container is opened and filled, only its own position changes. -/
theorem BodyCursor.changed_inside (old : q.index < s.cursorCount)
    (opened : BodyCursor.openContainer ⟨some q⟩ k contained s = (.ok c, t))
    (filling : ChangedAt (.inside ⟨s.cursorCount⟩) t u)
    : ChangedAt (.inside ⟨s.cursorCount⟩) s u := by
  obtain ⟨-, rfl⟩ := openContainer_ok old opened
  exact (changed_newBodyCursor _ s _).trans filling

/-- So nothing is written at its parent, or anywhere else. -/
theorem BodyCursor.signed_open {e : Site} (has : s.HasSite e) (old : q.index < s.cursorCount)
    (opened : BodyCursor.openContainer ⟨some q⟩ k contained s = (.ok c, t))
    (filling : ChangedAt (.inside ⟨s.cursorCount⟩) t u)
    : Signed e .empty "" s u := by
  have new : ¬ s.HasSite (.inside ⟨s.cursorCount⟩) := Nat.lt_irrefl s.cursorCount
  exact (Signed.refl e s).aside (changed_inside old opened filling) has new

/-- What a container that was made for a type holds, once it is filled. -/
theorem State.Signed.contents {p : Ref Native.BodyCursor} {items : Body} {text opening : String}
    (filled : Signed (.inside p) items text t u) (made : p.index < t.cursorCount)
    (blank : t.bodyCursor p = { code := k.code, contained := opening })
    : (u.bodyCursor p).code = k.code
      ∧ (u.bodyCursor p).items = items
      ∧ (u.bodyCursor p).closedSignature = k.enclose opening text := by
  have code := filled.code p made
  have contained := filled.contained p made
  have values := filled.written
  have signature := filled.signed
  simp only [State.written, State.signed, blank] at code contained values signature
  refine ⟨code, values, ?_⟩
  rw [Native.BodyCursor.closedSignature_eq code, contained, signature rfl, String.empty_append]

/-- A container that was opened, filled and closed is one more value of its parent, with the signature
of its type.
-/
theorem BodyCursor.signed_box {items : Body} {text : String} (old : q.index < s.cursorCount)
    (opened : BodyCursor.openContainer ⟨some q⟩ k contained s = (.ok c, t))
    (filled : Signed (.inside ⟨s.cursorCount⟩) items text t u)
    (closed : BodyCursor.closeContainer ⟨some q⟩ c u = (.ok (), v))
    : Signed (s.site q) (.box k.code items) (k.enclose (contained.getD "") text) s v := by
  have fits := k.fits_enclose (fits_of_openContainer opened) filled.fits
  obtain ⟨rfl, made⟩ := openContainer_ok old opened
  have blank : t.bodyCursor ⟨s.cursorCount⟩
      = { code := k.code, contained := contained.getD "" } := by
    rw [made, bodyCursor_newBodyCursor_self]
  have new : s.cursorCount < t.cursorCount := by
    rw [made]
    exact s.lt_cursorCount_newBodyCursor _
  obtain ⟨code, values, signature⟩ := filled.contents new blank
  have emptied := filled.toChangedAt.trans
    (changed_setBodyCursor (q := ⟨s.cursorCount⟩)
      (c := { u.bodyCursor ⟨s.cursorCount⟩ with items := .empty })
      (Nat.lt_of_lt_of_le new filled.count) rfl rfl rfl)
  have opening := signed_open (hasSite_site old) old opened emptied
  have pushed := signed_push (Nat.lt_of_lt_of_le old opening.count) (.box k.code items) fits
  rw [site_congr (opening.target q old)] at pushed
  have oldNow := (signed_open (hasSite_site old) old opened filled.toChangedAt).count
  rw [closeContainer_ok (Nat.lt_of_lt_of_le old oldNow) closed, code, values, signature,
    ← String.empty_append (s := k.enclose _ _)]
  exact opening.trans pushed

end Custody
