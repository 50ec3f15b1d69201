import SchemaNaming.Proofs.Accent
import SchemaNaming.Proofs.IdentifierCore
import SchemaNaming.Proofs.SchemaType

namespace SchemaNaming

/-!
# Variants in case

Two texts may differ in the case of ASCII letters and in nothing else.  Each pass that makes a normal
form looks at classes of characters that do not mind case, and the tables of keywords and built-in
types are looked up in lower case.  So what is made of two such texts differs in the same way, or
not at all.

* `Text.CaseVariant` — the texts differ in the case of ASCII letters only;
* `Text.CaseVariant.of_pass` — a pass makes variants of variants if it may come after folding, up to
  case;
* `Text.CaseVariant.normalForm` — the normal forms of variants are variants;
* `Text.CaseVariant.isKeyword_eq`, `Text.CaseVariant.builtinType?_eq` — tables do not mind case.
-/

namespace Text

variable {t u t' u' : Text}

/-! ### Passes and folding -/

@[simp] theorem asciiFold_append (t u : Text) : (t ++ u).asciiFold = t.asciiFold ++ u.asciiFold :=
  List.map_append

/-- A text that is folded is its own fold. -/
@[simp] theorem asciiFold_asciiFold (t : Text) : t.asciiFold.asciiFold = t.asciiFold := by
  simp [asciiFold]

/-- Only the empty text has an empty fold. -/
theorem asciiFold_eq_nil_iff : t.asciiFold = [] ↔ t = [] := List.map_eq_nil_iff

/-- A text starts plainly exactly if its fold does. -/
@[simp] theorem startsPlain_asciiFold (t : Text) : t.asciiFold.startsPlain = t.startsPlain := by
  cases t with
  | nil => rfl
  | cons c t => exact CodePoint.isPlainStart_toAsciiLower c

/-- Accented letters are found beyond ASCII, where folding changes nothing. -/
theorem asciiFold_plain_toAsciiLower (c : CodePoint) :
    asciiFold c.toAsciiLower.plain = asciiFold c.plain := by
  cases h : c.isExtended with
  | true => rw [CodePoint.toAsciiLower_of_isExtended h]
  | false =>
    have hlower : c.toAsciiLower.isExtended = false := by rw [CodePoint.isExtended_toAsciiLower, h]
    rw [CodePoint.plain_of_not_isAccented (CodePoint.isAccented_of_not_isExtended h),
      CodePoint.plain_of_not_isAccented (CodePoint.isAccented_of_not_isExtended hlower)]
    simp [asciiFold]

/-- Case may be forgotten before accents are removed. -/
theorem asciiFold_removeAccents_asciiFold (t : Text) :
    t.asciiFold.removeAccents.asciiFold = t.removeAccents.asciiFold := by
  induction t with
  | nil => rfl
  | cons c t ih =>
    show asciiFold (c.toAsciiLower.plain ++ removeAccents (asciiFold t)) = _
    rw [asciiFold_append, asciiFold_plain_toAsciiLower, ih, removeAccents_cons, asciiFold_append]

/-- Which characters stay, and how many digits are dropped in front, does not depend on case. -/
theorem identifierChars_asciiFold (t : Text) :
    t.asciiFold.identifierChars = t.identifierChars.asciiFold := by
  have hkept : CodePoint.isIdentifierChar ∘ CodePoint.toAsciiLower = CodePoint.isIdentifierChar :=
    funext CodePoint.isIdentifierChar_toAsciiLower
  rw [identifierChars, asciiFold, List.filter_map, hkept]
  rfl

/-- The core of the fold is the fold of the core. -/
theorem core_asciiFold (t : Text) : t.asciiFold.core = t.core.asciiFold := by
  have hdropped : CodePoint.isAsciiDigit ∘ CodePoint.toAsciiLower = CodePoint.isAsciiDigit :=
    funext CodePoint.isAsciiDigit_toAsciiLower
  rw [core, identifierChars_asciiFold, asciiFold, List.dropWhile_map, hdropped]
  rfl

/-! ### Variants -/

/-- The texts differ in the case of ASCII letters only. -/
def CaseVariant (t u : Text) : Prop := t.asciiFold = u.asciiFold

instance (t u : Text) : Decidable (t.CaseVariant u) :=
  inferInstanceAs (Decidable (t.asciiFold = u.asciiFold))

namespace CaseVariant

theorem refl (t : Text) : t.CaseVariant t := rfl

theorem append (h : t.CaseVariant u) (h' : t'.CaseVariant u') :
    CaseVariant (t ++ t') (u ++ u') := by
  unfold CaseVariant at *
  rw [asciiFold_append, asciiFold_append, h, h']

/-- Variants are empty together. -/
theorem eq_nil_iff (h : t.CaseVariant u) : t = [] ↔ u = [] := by
  rw [← asciiFold_eq_nil_iff, h, asciiFold_eq_nil_iff]

/-- What is made of a text and of its fold differs in case only; so does what is made of variants. -/
theorem of_pass {pass : Text → Text}
    (hpass : ∀ t, (pass t.asciiFold).asciiFold = (pass t).asciiFold) (h : t.CaseVariant u) :
    (pass t).CaseVariant (pass u) := by
  calc (pass t).asciiFold = (pass t.asciiFold).asciiFold := (hpass t).symm
    _ = (pass u.asciiFold).asciiFold := by rw [h]
    _ = (pass u).asciiFold := hpass u

/-- Variants stay variants when they are capitalized. -/
theorem capitalize (h : t.CaseVariant u) : t.capitalize.CaseVariant u.capitalize := by
  unfold CaseVariant at *
  rw [asciiFold_capitalize, h, asciiFold_capitalize]

theorem removeAccents (h : t.CaseVariant u) : t.removeAccents.CaseVariant u.removeAccents :=
  h.of_pass asciiFold_removeAccents_asciiFold

theorem identifierChars (h : t.CaseVariant u) : t.identifierChars.CaseVariant u.identifierChars :=
  h.of_pass fun t => by rw [identifierChars_asciiFold, asciiFold_asciiFold]

theorem core (h : t.CaseVariant u) : t.core.CaseVariant u.core :=
  h.of_pass fun t => by rw [core_asciiFold, asciiFold_asciiFold]

/-- Variants start plainly together. -/
theorem startsPlain_eq (h : t.CaseVariant u) : t.startsPlain = u.startsPlain := by
  rw [← startsPlain_asciiFold, h, startsPlain_asciiFold]

/-- **Normal forms of variants.**  They are variants, whatever the prefix is. -/
theorem normalForm (h : t.CaseVariant u) (p : Text) :
    (t.normalForm p).CaseVariant (u.normalForm p) := by
  have hplain := h.removeAccents
  -- both texts take the prefix, or neither does
  cases hstart : t.removeAccents.startsPlain with
  | true =>
    have hstart' := hplain.startsPlain_eq.symm.trans hstart
    rw [normalForm_of_startsPlain p hstart, normalForm_of_startsPlain p hstart']
    exact hplain.identifierChars
  | false =>
    have hstart' := hplain.startsPlain_eq.symm.trans hstart
    rw [normalForm_of_not_startsPlain p hstart, normalForm_of_not_startsPlain p hstart']
    split
    · exact hplain.core
    · exact (refl p.core).append hplain.identifierChars

/-! ### Tables -/

/-- Variants have the same lower case. -/
theorem lower_eq (h : t.CaseVariant u) : t.lower = u.lower := lower_eq_of_asciiFold_eq h

/-- Variants are keywords together. -/
theorem isKeyword_eq (h : t.CaseVariant u) : t.isKeyword = u.isKeyword := by
  rw [isKeyword, h.lower_eq, isKeyword]

/-- Variants are looked up as the same built-in type. -/
theorem builtinType?_eq (h : t.CaseVariant u) : t.builtinType? = u.builtinType? := by
  rw [builtinType?, h.lower_eq, builtinType?]

/-! ### Endings without letters -/

/-- A text without letters has no variant but itself. -/
theorem eq_of_not_isAsciiLetter (h : t.CaseVariant u) (hu : ∀ c ∈ u, c.isAsciiLetter = false) :
    t = u := by
  induction u generalizing t with
  | nil => exact h.eq_nil_iff.mpr rfl
  | cons d u ih =>
    cases t with
    | nil => exact absurd (h.eq_nil_iff.mp rfl) (List.cons_ne_nil d u)
    | cons c t =>
      rw [List.forall_mem_cons] at hu
      obtain ⟨hchar, hrest⟩ := List.cons.inj h
      rw [CodePoint.eq_of_toAsciiLower_eq hchar hu.1, ih hrest hu.2]

/-- An ending without letters is found in all variants of a text. -/
theorem exists_append (h : t.CaseVariant (u ++ u')) (hu' : ∀ c ∈ u', c.isAsciiLetter = false) :
    ∃ front : Text, t = front ++ u' ∧ front.CaseVariant u := by
  unfold CaseVariant at h
  rw [asciiFold_append] at h
  obtain ⟨front, ending, rfl, hfront, hending⟩ := List.map_eq_append_iff.mp h
  refine ⟨front, ?_, hfront⟩
  rw [eq_of_not_isAsciiLetter (t := ending) hending hu']

end CaseVariant

end Text

end SchemaNaming
