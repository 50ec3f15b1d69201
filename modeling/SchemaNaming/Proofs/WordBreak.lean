import SchemaNaming.Proofs.Identifier
import SchemaNaming.Proofs.Lowercase

namespace SchemaNaming

/-!
# Lower case at word breaks

A sigma looks at its neighbours only as far as its own word goes.  So a text may be lowered piece by
piece if a character stands between the pieces that ends words: digits do, and so does the backslash.

* `CodePoint.isWordBreak` — the characters that end words;
* `Text.lower_append_cons` — lower-casing on both sides of a word break;
* `Text.lower_append_digits` — digits at the end stay as they are;
* `Text.mem_lower_iff` — characters that are no letters come from themselves only;
* `Text.length_lower_append` — the pieces of any text add up to its length in lower case.
-/

namespace CodePoint

/-- The character ends words: it has no case, and is not passed over when a sigma looks at its
    neighbours. -/
def isWordBreak (c : CodePoint) : Bool := !c.isCased && !c.isCaseIgnorable

/-- The character between the parts of a qualified name. -/
def backslash : CodePoint := ofChar '\\'

variable {c : CodePoint}

/-- A word ends at what has no case and is not ignored by case. -/
theorem isWordBreak_iff :
    c.isWordBreak = true ↔ c.isCased = false ∧ c.isCaseIgnorable = false := by
  simp [isWordBreak]

@[simp] theorem isWordBreak_backslash : backslash.isWordBreak = true := by decide +kernel

/-- The ranges of both properties leave the digits out. -/
theorem isWordBreak_of_isAsciiDigit (h : c.isAsciiDigit = true) : c.isWordBreak = true := by
  have happart : ∀ r ∈ casedRanges ++ caseIgnorableRanges, ¬ (r.1 ≤ 0x39 ∧ 0x30 ≤ r.2) := by
    decide +kernel
  rw [isAsciiDigit_iff] at h
  have hout : ∀ ranges ⊆ casedRanges ++ caseIgnorableRanges, c.inRanges ranges = false := by
    intro ranges hsub
    rw [Bool.eq_false_iff]
    intro hin
    obtain ⟨r, hr, hlo, hhi⟩ := (inRanges_iff _ c).mp hin
    have := happart r (hsub hr)
    omega
  rw [isWordBreak_iff]
  exact ⟨hout _ (List.subset_append_left _ _), hout _ (List.subset_append_right _ _)⟩

end CodePoint

namespace Text

variable {t u before before' : Text} {c d : CodePoint}

/-! ### Neighbours of a word break -/

/-- Nothing is seen beyond a word break, on either side of it. -/
theorem casedNext_cons_of_isWordBreak (hc : c.isWordBreak = true) (t : Text) :
    casedNext (c :: t) = false := by
  obtain ⟨hcased, hignorable⟩ := CodePoint.isWordBreak_iff.mp hc
  simp [casedNext_cons, hcased, hignorable]

/-- What has no case at its start makes no difference to the look ahead. -/
theorem casedNext_append (t : Text) (hu : u.casedNext = false) :
    casedNext (t ++ u) = t.casedNext := by
  induction t with
  | nil => exact hu
  | cons c t ih => rw [List.cons_append, casedNext_cons, casedNext_cons, ih]

/-- Of what comes before a text, only the next cased letter counts. -/
theorem lowerFrom_congr (h : before.casedNext = before'.casedNext) (t : Text) :
    lowerFrom before t = lowerFrom before' t := by
  induction t generalizing before before' with
  | nil => rfl
  | cons c t ih =>
    have hat : lowerAt before c t = lowerAt before' c t := by
      rw [lowerAt, finalSigma, h, ← finalSigma, lowerAt]
    have hnext : casedNext (c :: before) = casedNext (c :: before') := by
      rw [casedNext_cons, casedNext_cons, h]
    rw [lowerFrom, lowerFrom, hat, ih hnext]

/-- Of what comes behind it, too. -/
theorem lowerFrom_append (before t : Text) (hu : u.casedNext = false) :
    lowerFrom before (t ++ u) = lowerFrom before t ++ lowerFrom (t.reverse ++ before) u := by
  induction t generalizing before with
  | nil => rfl
  | cons c t ih =>
    have hat : lowerAt before c (t ++ u) = lowerAt before c t := by
      rw [lowerAt, finalSigma, casedNext_append t hu, ← finalSigma, lowerAt]
    rw [List.cons_append, lowerFrom, hat, ih, lowerFrom, List.append_assoc, List.reverse_cons,
      List.append_assoc]
    rfl

/-! ### Pieces of a text -/

/-- **Lower case at a word break.**  The pieces on both sides are lowered by themselves. -/
theorem lower_append_cons (t u : Text) (hc : c.isWordBreak = true) (hascii : c.isExtended = false) :
    lower (t ++ c :: u) = t.lower ++ c.toAsciiLower :: u.lower := by
  have hnone : casedNext (c :: (t.reverse ++ [])) = casedNext [] :=
    casedNext_cons_of_isWordBreak hc _
  rw [lower, lowerFrom_append [] t (casedNext_cons_of_isWordBreak hc u), lowerFrom,
    lowerAt_of_not_isExtended _ _ hascii, lowerFrom_congr hnone]
  rfl

/-- The parts of a qualified name are lowered by themselves. -/
theorem lower_append_backslash (t u : Text) :
    lower (t ++ .backslash :: u) = t.lower ++ .backslash :: u.lower :=
  lower_append_cons t u CodePoint.isWordBreak_backslash (by decide)

/-- Digits at the end stay as they are, and do not change what stands before them. -/
theorem lower_append_digits (t : Text) (hu : ∀ c ∈ u, c.isAsciiDigit = true) :
    lower (t ++ u) = t.lower ++ u := by
  induction u generalizing t with
  | nil => rw [List.append_nil, List.append_nil]
  | cons c u ih =>
    rw [List.forall_mem_cons] at hu
    have hval := CodePoint.isAsciiDigit_iff.mp hu.1
    have hascii : c.isExtended = false := CodePoint.isExtended_eq_false_iff.mpr (by omega)
    have hself : c.toAsciiLower = c := by
      ext
      rw [CodePoint.val_toAsciiLower, if_neg (by omega)]
    -- the digits that follow stay, for nothing stands before them
    have hrest : lower u = u := ih [] hu.2
    rw [lower_append_cons t u (CodePoint.isWordBreak_of_isAsciiDigit hu.1) hascii, hself, hrest]

/-! ### Characters of a lowered text -/

/-- An ASCII character that is no letter is lowered from itself only. -/
theorem eq_of_mem_lowerAt {after : Text} (hascii : d.isExtended = false)
    (hletter : d.isAsciiLetter = false) (h : d ∈ lowerAt before c after) : c = d := by
  unfold lowerAt at h
  split at h
  · -- both forms of the small sigma lie beyond ASCII
    split at h <;> rw [List.mem_singleton] at h <;> subst h <;> exact absurd hascii (by decide)
  · split at h
    · rw [List.mem_cons, List.mem_singleton] at h
      rcases h with rfl | rfl
      · exact absurd hletter (by decide)
      · exact absurd hascii (by decide)
    · rw [List.mem_singleton] at h
      subst h
      rcases CodePoint.isExtended_kelvinLower.mp (CodePoint.kelvinLower_of_simpleLower hascii) with
        hc | rfl
      · rw [CodePoint.simpleLower_of_not_isExtended hc] at hletter ⊢
        exact CodePoint.eq_of_toAsciiLower_eq (CodePoint.toAsciiLower_toAsciiLower c).symm hletter
      · exact absurd hletter (by decide +kernel)

/-- What is no letter of ASCII is there after lowering exactly if it was there before. -/
theorem mem_lowerFrom_iff (before t : Text) (hascii : d.isExtended = false)
    (hletter : d.isAsciiLetter = false) : d ∈ lowerFrom before t ↔ d ∈ t := by
  induction t generalizing before with
  | nil => exact Iff.rfl
  | cons c t ih =>
    rw [lowerFrom, List.mem_append, ih, List.mem_cons]
    apply or_congr_left
    constructor
    · exact fun h => (eq_of_mem_lowerAt hascii hletter h).symm
    · rintro rfl
      rw [lowerAt_of_not_isExtended _ _ hascii, CodePoint.toAsciiLower_of_not_isAsciiLetter hletter]
      exact List.mem_singleton_self d

/-- Lower-casing neither brings in nor takes away an ASCII character that is no letter. -/
theorem mem_lower_iff (t : Text) (hascii : d.isExtended = false)
    (hletter : d.isAsciiLetter = false) : d ∈ t.lower ↔ d ∈ t :=
  mem_lowerFrom_iff [] t hascii hletter

/-! ### Length of a lowered text -/

/-- How many code points stand for one in lower case.  Both forms of the small sigma are single. -/
def lowerWidth (c : CodePoint) : Nat := if c = .capitalDottedI then 2 else 1

/-- How much becomes of a character does not depend on where it stands. -/
theorem length_lowerAt (before : Text) (c : CodePoint) (after : Text) :
    (lowerAt before c after).length = lowerWidth c := by
  have happart : CodePoint.capitalSigma ≠ .capitalDottedI := by decide
  unfold lowerAt lowerWidth
  by_cases hsigma : c = .capitalSigma
  · simp [hsigma, happart]
  · by_cases hdotted : c = .capitalDottedI <;> simp [hsigma, hdotted, happart.symm]

/-- No character vanishes when it is lowered. -/
theorem lower_eq_nil_iff : t.lower = [] ↔ t = [] := by
  have hpos : ∀ c, 0 < lowerWidth c := by
    intro c
    unfold lowerWidth
    split <;> omega
  cases t with
  | nil => exact Iff.rfl
  | cons c t =>
    have := hpos c
    rw [← List.length_eq_zero_iff, lower, lowerFrom, List.length_append, length_lowerAt]
    simp
    omega

/-- How much becomes of a text does not depend on what stands before it. -/
theorem length_lowerFrom_congr (before before' t : Text) :
    (lowerFrom before t).length = (lowerFrom before' t).length := by
  induction t generalizing before before' with
  | nil => rfl
  | cons c t ih => simp [lowerFrom, length_lowerAt, ih (c :: before) (c :: before')]

/-- What is put behind a text may change a sigma in it, but not the length of its lower case. -/
theorem length_lower_append (t u : Text) :
    (t ++ u).lower.length = t.lower.length + u.lower.length := by
  have hfrom : ∀ before, (lowerFrom before (t ++ u)).length =
      (lowerFrom before t).length + u.lower.length := by
    induction t with
    | nil =>
      intro before
      simp [lowerFrom, lower, length_lowerFrom_congr before []]
    | cons c t ih =>
      intro before
      simp [lowerFrom, length_lowerAt, ih, Nat.add_assoc]
  exact hfrom []

end Text

end SchemaNaming
