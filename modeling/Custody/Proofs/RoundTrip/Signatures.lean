import Custody.Proofs.Writing.Drafts

/-! The two signatures of a message: the one that it keeps as its values are written, and the one that a
reader tells from the values. A reader knows the type of an array by its first element alone, so the two
are the same exactly where no array in sight is empty; elsewhere the reader's is shorter.
-/

namespace Custody

open State

-----------------------------------------------------------------------------------------
-- What a signature leaves out
-----------------------------------------------------------------------------------------

namespace Body

/-- Whether the signature of the first value, and that of all values, leaves out the type of an array's
elements, because there are none. Of the elements of an array only the first is in a signature, and what
a variant holds never is. Both come from one pass.
-/
def gaps : Body → Bool × Bool
  | empty => (false, false)
  | scalar _ _ rest => (false, rest.gaps.2)
  | container code items rest =>
      let inside := items.gaps
      let here :=
        if code = 'a' then decide (items = .empty) || inside.1
        else (code = 'r' || code = 'e') && inside.2
      (here, here || rest.gaps.2)

/-- Whether the signature of the first value leaves out the type of an empty array. -/
def firstHasGap (b : Body) : Bool :=
  b.gaps.1

/-- Whether the signature of all values leaves out the type of an empty array. -/
def hasGap (b : Body) : Bool :=
  b.gaps.2

/-- Whether the signature of a container leaves out the type of an empty array. -/
def boxHasGap (code : Char) (items : Body) : Bool :=
  if code = 'a' then decide (items = .empty) || items.firstHasGap
  else (code = 'r' || code = 'e') && items.hasGap

end Body

/-- A signature against the one that was meant: the same, or shorter where it has a gap. -/
structure Short (gap : Bool) (told meant : String) : Prop where
  same : gap = false → told = meant
  shorter : gap = true → told.length < meant.length

namespace Short

variable {g h : Bool} {told meant more rest : String}

theorem eq_iff (short : Short g told meant)
    : told = meant ↔ g = false := by
  constructor
  · rintro rfl
    cases g with
    | false => rfl
    | true => exact absurd (short.shorter rfl) (Nat.lt_irrefl _)
  · exact short.same

theorem refl (text : String)
    : Short false text text :=
  ⟨fun _ => rfl, nofun⟩

theorem length_le (short : Short g told meant)
    : told.length ≤ meant.length := by
  cases g with
  | false => exact Nat.le_of_eq (congrArg String.length (short.same rfl))
  | true => exact Nat.le_of_lt (short.shorter rfl)

theorem append (first : Short g told meant) (second : Short h more rest)
    : Short (g || h) (told ++ more) (meant ++ rest) := by
  have firstLength := first.length_le
  have secondLength := second.length_le
  constructor
  · intro none
    simp only [Bool.or_eq_false_iff] at none
    rw [first.same none.1, second.same none.2]
  · intro gap
    simp only [String.length_append]
    rcases Bool.or_eq_true_iff.1 gap with here | there
    · have := first.shorter here
      omega
    · have := second.shorter there
      omega

theorem enclose (short : Short g told meant) (before after : String)
    : Short g (before ++ told ++ after) (before ++ meant ++ after) := by
  simpa using ((refl before).append short).append (refl after)

end Short

-----------------------------------------------------------------------------------------
-- What was meant
-----------------------------------------------------------------------------------------

namespace Draft

/-- The signatures of the values, one for each. -/
def signatures : Draft → List String
  | empty => []
  | basic a rest => a.type.letter :: rest.signatures
  | block _ rest => "ay" :: rest.signatures
  | container k contained items rest =>
      k.enclose (contained.getD "") items.signature :: rest.signatures

/-- Whether every array, at every depth, is opened with the signature of its elements. Nothing is asked
of the signature of an array without elements but that there is one.
-/
def wellTyped : Draft → Bool
  | empty => true
  | basic _ rest => rest.wellTyped
  | block _ rest => rest.wellTyped
  | container k contained items rest =>
      (k != .array
          || contained.getD "" != "" && items.signatures.all (· == contained.getD ""))
        && items.wellTyped
        && rest.wellTyped

theorem signature_scalar (a : Argument)
    : a.scalar.signature a.code = a.type.letter := by
  cases a <;> rfl

/-- An array of elements is opened with the signature of the first. -/
theorem headD_of_all {items : Draft} {text : String} (some : items ≠ .empty)
    (all : items.signatures.all (· == text) = true)
    : items.signatures.headD "" = text := by
  cases items with
  | empty => exact absurd rfl some
  | basic | block | container =>
      simp only [signatures, List.all_cons, Bool.and_eq_true, beq_iff_eq] at all
      exact all.1

/-- The signature of an array leaves out what its first element does, or all if there is none. -/
theorem short_array {items : Draft} {contained : String} (some : contained ≠ "")
    (all : items.signatures.all (· == contained) = true)
    (inside : Short items.body.firstHasGap items.body.firstSignature (items.signatures.headD ""))
    : Short (Body.boxHasGap 'a' items.body) ("a" ++ items.body.firstSignature)
        ("a" ++ contained) := by
  by_cases none : items = .empty
  · subst none
    refine ⟨Bool.noConfusion, fun _ => ?_⟩
    have long : 0 < contained.length :=
      Nat.pos_of_ne_zero fun blank => some (String.length_eq_zero_iff.1 blank)
    simpa [body] using long
  · have element := headD_of_all none all
    have values : items.body ≠ .empty := by
      cases items with
      | empty => exact absurd rfl none
      | basic | block | container => exact Body.noConfusion
    have gap : Body.boxHasGap 'a' items.body = items.body.firstHasGap := by
      simp [Body.boxHasGap, values]
    rw [gap, ← element]
    exact (Short.refl "a").append inside

/-- The signature of a container leaves out what its type shows of the values inside. -/
theorem short_box {k : ArgumentType} {contained : String} {items : Draft}
    (typed : k = .array → contained ≠ "" ∧ items.signatures.all (· == contained) = true)
    (first : Short items.body.firstHasGap items.body.firstSignature (items.signatures.headD ""))
    (all : Short items.body.hasGap items.body.signature items.signature)
    : Short (Body.boxHasGap k.code items.body)
        (Body.boxSignature k.code items.body.firstSignature items.body.signature)
        (k.enclose contained items.signature) := by
  cases k with
  | array => exact short_array (typed rfl).1 (typed rfl).2 first
  | struct => exact all.enclose "(" ")"
  | dictEntry => exact all.enclose "\x7b" "\x7d"
  | _ => exact .refl _

/-- Told from the values, the signatures of the first and of all leave out the types of empty arrays and
nothing else; by induction on the draft.
-/
theorem short_signatures {d : Draft} (typed : d.wellTyped = true)
    : Short d.body.firstHasGap d.body.firstSignature (d.signatures.headD "")
      ∧ Short d.body.hasGap d.body.signature d.signature := by
  induction d with
  | empty => exact ⟨.refl "", .refl ""⟩
  | basic a rest ih =>
      have here : Short false (a.scalar.signature a.code) a.type.letter := by
        rw [signature_scalar]
        exact .refl _
      exact ⟨here, here.append (ih typed).2⟩
  | block bytes rest ih =>
      have here : Short false (Body.boxSignature 'a' "y" "y") "ay" := .refl _
      exact ⟨here, here.append (ih typed).2⟩
  | container k contained items rest ihItems ihRest =>
      simp only [wellTyped, Bool.and_eq_true, Bool.or_eq_true, bne_iff_ne, ne_eq] at typed
      obtain ⟨⟨array, inside⟩, after⟩ := typed
      have box := short_box (fun same => array.resolve_left (absurd same)) (ihItems inside).1
        (ihItems inside).2
      exact ⟨box, box.append (ihRest after).2⟩

end Draft

-----------------------------------------------------------------------------------------
-- Both signatures of a message
-----------------------------------------------------------------------------------------

/-- A message keeps what was meant, and a new reader tells the signature of the values. -/
theorem Draft.Written.both_signatures {destination path interface method : String} {m : Message}
    {d : Draft} {states : List State} {s t u : State} (unplanned : s.Unplanned)
    (made : Message.methodCall destination path interface method s = (.ok m, t))
    (written : Written [.message m] d t states u)
    : ∃ c v,
        m.signature u = (.ok d.signature, u)
        ∧ m.cursor u = (.ok c, v)
        ∧ (c.signature v).1.getD "" = d.body.signature := by
  obtain ⟨r, raw, blank, keeps⟩ := Message.methodCall_eq made
  have writers : ∀ w ∈ [Writer.message m], t.HasWriter (.top r) w :=
    List.forall_mem_singleton.2 ⟨r, raw, rfl⟩
  obtain ⟨done, -⟩ := written.signed (e := .top r) trivial writers
  have unplannedNow := done.unplanned (keeps unplanned)
  have values := done.written
  have signature := done.signed
  simp only [State.written, State.signed, blank] at values signature
  have body : (u.message r).body = d.body := values
  have kept : (u.message r).signature = d.signature :=
    (signature rfl).trans String.empty_append
  obtain ⟨q, v, fresh, start, _, here⟩ := Message.cursor_stands unplannedNow raw
  refine ⟨⟨some q⟩, v, ?_, fresh, ?_⟩
  · rw [Message.signature_eq unplannedNow raw, kept]
  · rw [BodyCursor.signature_eq (start.unplanned unplannedNow) (here.trans body)
      d.wellCoded_body]
    by_cases none : d.body.signature = ""
    · simp [none]
    · simp [none]

/-- The signature that a message keeps of well-typed values is the one that a new reader tells of them, or
an empty text where it tells none, exactly if none of their types is that of an empty array in sight;
otherwise the reader leaves out something.
-/
theorem signatures_agree_iff {destination path interface method : String} {m : Message}
    {d : Draft} {states : List State} {s t u : State} (unplanned : s.Unplanned)
    (made : Message.methodCall destination path interface method s = (.ok m, t))
    (written : Draft.Written [.message m] d t states u) (typed : d.wellTyped = true)
    : ∃ c v,
        m.signature u = (.ok d.signature, u)
        ∧ m.cursor u = (.ok c, v)
        ∧ ((c.signature v).1.getD "" = d.signature ↔ d.body.hasGap = false)
        ∧ (d.body.hasGap = true → ((c.signature v).1.getD "").length < d.signature.length) := by
  obtain ⟨c, v, kept, fresh, told⟩ := written.both_signatures unplanned made
  have short := (Draft.short_signatures typed).2
  refine ⟨c, v, kept, fresh, ?_, ?_⟩
  · rw [told]
    exact short.eq_iff
  · rw [told]
    exact short.shorter

/-- An array that holds an array without texts. -/
def hollowDraft : Draft :=
  .container .array (some "as") (.container .array (some "s") .empty .empty) .empty

theorem hollowDraft_written
    : ∃ states u, Draft.Written [.message sampleMessage] hollowDraft sampleMade states u :=
  ⟨_, _,
    .position (m := sampleMessage) (List.mem_singleton_self _) rfl
      (.container (List.mem_cons_self ..)
        (show BodyCursor.openContainer _ .array (some "as") _ = _ from rfl)
        (.container (List.mem_singleton_self _)
          (show BodyCursor.openContainer _ .array (some "s") _ = _ from rfl) .done rfl .done)
        rfl .done)⟩

theorem sampleMessage_made
    : Message.methodCall "d" "/p" "i.f" "m" {} = (.ok sampleMessage, sampleMade) :=
  rfl

theorem hollowDraft_told_short
    : ∃ c u v,
        sampleMessage.signature u = (.ok "aas", u)
        ∧ sampleMessage.cursor u = (.ok c, v)
        ∧ ((c.signature v).1.getD "").length < 3 := by
  obtain ⟨states, u, written⟩ := hollowDraft_written
  have unplanned : State.Unplanned {} := rfl
  obtain ⟨c, v, signature, made, -, short⟩ :=
    signatures_agree_iff unplanned sampleMessage_made written rfl
  exact ⟨c, u, v, signature, made, short rfl⟩

/-- So the two signatures are not always the same. -/
theorem hollowDraft_signatures_differ
    : ¬ ∀ (destination path interface method : String) (m : Message) (d : Draft)
        (states : List State) (s t u : State),
        s.Unplanned
        → Message.methodCall destination path interface method s = (.ok m, t)
        → Draft.Written [.message m] d t states u
        → d.wellTyped = true
        → ∃ c v text,
            m.signature u = (.ok text, u)
            ∧ m.cursor u = (.ok c, v)
            ∧ (c.signature v).1.getD "" = text := by
  intro agree
  obtain ⟨states, u, written⟩ := hollowDraft_written
  have unplanned : State.Unplanned {} := rfl
  obtain ⟨c, v, text, signature, made, same⟩ :=
    agree "d" "/p" "i.f" "m" sampleMessage hollowDraft states {} sampleMade u unplanned
      sampleMessage_made written rfl
  obtain ⟨c', v', kept, made', told⟩ := written.both_signatures unplanned sampleMessage_made
  obtain ⟨⟨⟩, rfl⟩ := Prod.mk.inj (made.symm.trans made')
  obtain ⟨⟨⟩, -⟩ := Prod.mk.inj (signature.symm.trans kept)
  have short : hollowDraft.body.signature = hollowDraft.signature := told.symm.trans same
  exact absurd short (by decide)

end Custody
