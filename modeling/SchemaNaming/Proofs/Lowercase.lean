import SchemaNaming.Proofs.AsciiCase
import SchemaNaming.Text.Lowercase

namespace SchemaNaming

/-!
# Lower case and ASCII case

Full lower-casing looks at the neighbours of a sigma and may lengthen the text, but it never tells
two texts apart that differ in the case of ASCII letters only.  Nor does it lead into ASCII, but for
ASCII itself and the Kelvin sign.  What it leads to it leaves alone.

* `Text.lower_asciiFold` — the case of ASCII letters is lost by lower-casing;
* `Text.kelvinFold` — the fold of ASCII letters and the Kelvin sign;
* `Text.lower_eq_iff_kelvinFold_eq` — the fold tells which texts have a given ASCII lower case;
* `CodePoint.IsLowered`, `Text.lower_eq_self_iff` — what is its own lower case;
* `Text.lower_lower` — nothing is left to be lowered in a lower case.
-/

namespace CodePoint

variable {c : CodePoint}

/-! ### The case table on ASCII -/

/-- The table lowers ASCII letters, and leaves the other ASCII characters alone. -/
theorem lowerNumber_ascii : ∀ n < 0x80,
    lowerNumber n = if 0x41 ≤ n ∧ n ≤ 0x5A then n + 0x20 else n := by
  decide +kernel

/-- In ASCII the tables of lower case know the letters only. -/
theorem simpleLower_of_not_isExtended (h : c.isExtended = false) :
    c.simpleLower = c.toAsciiLower := by
  rw [isExtended_eq_false_iff] at h
  ext
  rw [val_toAsciiLower]
  exact lowerNumber_ascii c.val h

/-- The runs of the table that lead into ASCII start there, but for the one of the Kelvin sign. -/
theorem lowerRun_target_ascii : ∀ r ∈ lowerRuns,
    r.target < 0x80 → r.last < 0x80 ∨ r.first = 0x212A ∧ r.last = 0x212A := by
  decide +kernel

/-- Only ASCII characters and the Kelvin sign have a lower case in ASCII. -/
theorem lowerNumber_lt_ascii {n : Nat} (h : lowerNumber n < 0x80) : n < 0x80 ∨ n = 0x212A := by
  rcases lowerNumber_cases n with e | ⟨r, hr, hc, e⟩
  · rw [e] at h
    exact Or.inl h
  · simp only [LowerRun.contains, Bool.and_eq_true, decide_eq_true_eq] at hc
    rcases lowerRun_target_ascii r hr (by omega) with hlast | ⟨hfirst, hlast⟩ <;> omega

/-! ### Properties of neighbours -/

/-- A letter is cased in either case. -/
@[simp] theorem isCased_toAsciiLower (c : CodePoint) : c.toAsciiLower.isCased = c.isCased := by
  by_cases h : c.isAsciiUpper
  · have hval := val_toAsciiLower c
    rw [isAsciiUpper_iff] at h
    rw [if_pos h] at hval
    have hupper : c.isCased = true := (inRanges_iff _ c).mpr ⟨(0x41, 0x5A), by decide, h⟩
    have hlower : c.toAsciiLower.isCased = true :=
      (inRanges_iff _ _).mpr ⟨(0x61, 0x7A), by decide, by dsimp only; omega⟩
    rw [hupper, hlower]
  · rw [toAsciiLower, dif_neg h]

/-- No ASCII letter is passed over when the neighbours of a sigma are looked at. -/
theorem isCaseIgnorable_of_isAsciiLetter (h : c.isAsciiLetter = true) :
    c.isCaseIgnorable = false := by
  have hapart : ∀ r ∈ caseIgnorableRanges,
      ¬ (r.1 ≤ 0x5A ∧ 0x41 ≤ r.2) ∧ ¬ (r.1 ≤ 0x7A ∧ 0x61 ≤ r.2) := by
    decide +kernel
  simp only [isAsciiLetter, Bool.or_eq_true, isAsciiUpper_iff, isAsciiLower_iff] at h
  rw [isCaseIgnorable, Bool.eq_false_iff]
  intro hin
  obtain ⟨r, hr, hlo, hhi⟩ := (inRanges_iff _ c).mp hin
  have := hapart r hr
  omega

/-- A letter is looked at in either case. -/
@[simp] theorem isCaseIgnorable_toAsciiLower (c : CodePoint) :
    c.toAsciiLower.isCaseIgnorable = c.isCaseIgnorable := by
  by_cases h : c.isAsciiUpper
  · have hlower : c.toAsciiLower.isAsciiLower = true := by
      have hval := val_toAsciiLower c
      rw [isAsciiUpper_iff] at h
      rw [if_pos h] at hval
      rw [isAsciiLower_iff]
      omega
    rw [isCaseIgnorable_of_isAsciiLetter (c := c) (by simp [isAsciiLetter, h]),
      isCaseIgnorable_of_isAsciiLetter (by simp [isAsciiLetter, hlower])]
  · rw [toAsciiLower, dif_neg h]

end CodePoint

namespace Text

/-! ### Lower-casing forgets the case of ASCII letters -/

/-- What case ignores is passed over in the look ahead. -/
theorem casedNext_cons (c : CodePoint) (t : Text) :
    casedNext (c :: t) = if c.isCaseIgnorable then t.casedNext else c.isCased := by
  unfold casedNext
  rw [List.dropWhile_cons]
  by_cases h : c.isCaseIgnorable
  · rw [if_pos h, if_pos h]
  · rw [if_neg h, if_neg h]

/-- The look ahead does not depend on the case of ASCII letters. -/
@[simp] theorem casedNext_asciiFold (t : Text) : t.asciiFold.casedNext = t.casedNext := by
  induction t with
  | nil => rfl
  | cons c t ih =>
    show casedNext (c.toAsciiLower :: asciiFold t) = _
    rw [casedNext_cons, casedNext_cons, CodePoint.isCaseIgnorable_toAsciiLower,
      CodePoint.isCased_toAsciiLower, ih]

/-- Whether a sigma is final does not depend on the case of the ASCII letters around it. -/
theorem finalSigma_asciiFold (before after : Text) :
    finalSigma before.asciiFold after.asciiFold = finalSigma before after := by
  rw [finalSigma, finalSigma, casedNext_asciiFold, casedNext_asciiFold]

/-- An ASCII character is lowered by itself, since neither the sigma nor the dotted capital is one. -/
theorem lowerAt_of_not_isExtended (before after : Text) {c : CodePoint}
    (h : c.isExtended = false) : lowerAt before c after = [c.toAsciiLower] := by
  have hsigma : c ≠ .capitalSigma := by
    rintro rfl
    exact absurd h (by decide)
  have hdotted : c ≠ .capitalDottedI := by
    rintro rfl
    exact absurd h (by decide)
  rw [lowerAt, if_neg hsigma, if_neg hdotted, CodePoint.simpleLower_of_not_isExtended h]

/-- A character is lowered alike in whatever case its ASCII surroundings are. -/
theorem lowerAt_asciiFold (before after : Text) (c : CodePoint) :
    lowerAt before.asciiFold c.toAsciiLower after.asciiFold = lowerAt before c after := by
  cases h : c.isExtended with
  | true =>
    rw [CodePoint.toAsciiLower_of_isExtended h]
    rw [lowerAt, finalSigma_asciiFold, lowerAt]
  | false =>
    have hfold : c.toAsciiLower.isExtended = false := by rw [CodePoint.isExtended_toAsciiLower, h]
    rw [lowerAt_of_not_isExtended _ _ h, lowerAt_of_not_isExtended _ _ hfold,
      CodePoint.toAsciiLower_toAsciiLower]

/-- A text is lowered alike in whatever case its ASCII letters are, and those before it. -/
theorem lowerFrom_asciiFold (before t : Text) :
    lowerFrom before.asciiFold t.asciiFold = lowerFrom before t := by
  -- the text before is folded as well, as a sigma looks at it
  induction t generalizing before with
  | nil => rfl
  | cons c t ih =>
    show lowerAt before.asciiFold c.toAsciiLower (asciiFold t)
        ++ lowerFrom (asciiFold (c :: before)) (asciiFold t) = _
    rw [lowerAt_asciiFold, ih]
    rfl

/-- The case of ASCII letters is lost by lower-casing, whatever stands around them. -/
@[simp] theorem lower_asciiFold (t : Text) : t.asciiFold.lower = t.lower :=
  lowerFrom_asciiFold [] t

/-- Texts that differ in the case of ASCII letters only have the same lower case. -/
theorem lower_eq_of_asciiFold_eq {t u : Text} (h : t.asciiFold = u.asciiFold) :
    t.lower = u.lower := by
  rw [← lower_asciiFold t, h, lower_asciiFold]

end Text

/-! ### Lower case in ASCII -/

/-- The sign for Kelvin, a capital K beyond ASCII. -/
def CodePoint.kelvinSign : CodePoint := ofChar '\u212a'

/-- The lower case of an ASCII letter or the Kelvin sign; other code points stay as they are. -/
def CodePoint.kelvinLower (c : CodePoint) : CodePoint :=
  if c = kelvinSign then .ofChar 'k' else c.toAsciiLower

/-- The text with its ASCII letters and Kelvin signs in lower case. -/
def Text.kelvinFold (t : Text) : Text := t.map CodePoint.kelvinLower

namespace CodePoint

variable {c : CodePoint}

/-- All characters but the Kelvin sign are lowered as in ASCII. -/
theorem kelvinLower_of_ne (h : c ≠ kelvinSign) : c.kelvinLower = c.toAsciiLower := if_neg h

/-- The characters of ASCII are lowered as in ASCII. -/
theorem kelvinLower_of_not_isExtended (h : c.isExtended = false) :
    c.kelvinLower = c.toAsciiLower := by
  refine kelvinLower_of_ne ?_
  rintro rfl
  exact absurd h (by decide)

/-- The fold leads into ASCII from ASCII and the Kelvin sign only. -/
theorem isExtended_kelvinLower :
    c.kelvinLower.isExtended = false ↔ c.isExtended = false ∨ c = kelvinSign := by
  by_cases h : c = kelvinSign
  · subst h
    exact ⟨fun _ => Or.inr rfl, fun _ => by decide⟩
  · rw [kelvinLower_of_ne h, isExtended_toAsciiLower]
    exact ⟨Or.inl, fun hor => hor.resolve_right h⟩

/-- Where the lower case by itself leads into ASCII, so does the fold. -/
theorem kelvinLower_of_simpleLower (h : c.simpleLower.isExtended = false) :
    c.kelvinLower.isExtended = false := by
  rw [isExtended_eq_false_iff, simpleLower] at h
  rw [isExtended_kelvinLower, isExtended_eq_false_iff]
  rcases lowerNumber_lt_ascii h with hlt | heq
  · exact Or.inl hlt
  · exact Or.inr (CodePoint.ext heq)

end CodePoint

namespace Text

variable {t u : Text}

@[simp] theorem kelvinFold_append (t u : Text) :
    kelvinFold (t ++ u) = t.kelvinFold ++ u.kelvinFold :=
  List.map_append

/-- In a text without the Kelvin sign only ASCII letters are folded. -/
theorem kelvinFold_eq_asciiFold (h : CodePoint.kelvinSign ∉ t) : t.kelvinFold = t.asciiFold := by
  refine List.map_congr_left fun c hc => CodePoint.kelvinLower_of_ne ?_
  rintro rfl
  exact h hc

/-- A Kelvin sign leaves the letter `k` in the fold, so without that letter there was none. -/
theorem kelvinFold_eq_asciiFold_of_not_mem (h : CodePoint.ofChar 'k' ∉ t.kelvinFold) :
    t.kelvinFold = t.asciiFold := by
  apply kelvinFold_eq_asciiFold
  intro hmem
  exact h (List.mem_map.mpr ⟨CodePoint.kelvinSign, hmem, rfl⟩)

/-- The case of ASCII letters is lost by the wider fold as well. -/
@[simp] theorem kelvinFold_asciiFold (t : Text) : t.asciiFold.kelvinFold = t.kelvinFold := by
  rw [kelvinFold, asciiFold, List.map_map]
  refine List.map_congr_left fun c _ => ?_
  rw [Function.comp_apply]
  cases h : c.isExtended with
  | true => rw [CodePoint.toAsciiLower_of_isExtended h]
  | false =>
    have hfold : c.toAsciiLower.isExtended = false := by rw [CodePoint.isExtended_toAsciiLower, h]
    rw [CodePoint.kelvinLower_of_not_isExtended h, CodePoint.kelvinLower_of_not_isExtended hfold,
      CodePoint.toAsciiLower_toAsciiLower]

/-- Where the fold leads into ASCII, it is the lower case. -/
theorem lowerAt_of_kelvinLower (before after : Text) {c : CodePoint}
    (h : c.kelvinLower.isExtended = false) : lowerAt before c after = [c.kelvinLower] := by
  rcases CodePoint.isExtended_kelvinLower.mp h with hascii | rfl
  · rw [lowerAt_of_not_isExtended _ _ hascii, CodePoint.kelvinLower_of_not_isExtended hascii]
  · rfl

/-- A lower case in ASCII comes from a character that the fold leads into ASCII. -/
theorem kelvinLower_of_lowerAt {before after : Text} {c : CodePoint}
    (h : ∀ d ∈ lowerAt before c after, d.isExtended = false) :
    c.kelvinLower.isExtended = false := by
  unfold lowerAt at h
  split at h
  · -- both forms of the small sigma lie beyond ASCII
    split at h
    · exact absurd (h _ List.mem_cons_self) (by decide)
    · exact absurd (h _ List.mem_cons_self) (by decide)
  · split at h
    · -- the dot above stays behind
      exact absurd (h .combiningDot (by simp)) (by decide)
    · exact CodePoint.kelvinLower_of_simpleLower (h _ List.mem_cons_self)

/-- A text whose fold is in ASCII is lowered by the fold, wherever it stands. -/
theorem lowerFrom_eq_kelvinFold (before : Text) (h : ∀ d ∈ t.kelvinFold, d.isExtended = false) :
    lowerFrom before t = t.kelvinFold := by
  induction t generalizing before with
  | nil => rfl
  | cons c t ih =>
    have h' : c.kelvinLower.isExtended = false ∧ ∀ d ∈ kelvinFold t, d.isExtended = false :=
      List.forall_mem_cons.mp h
    rw [lowerFrom, lowerAt_of_kelvinLower before t h'.1, ih _ h'.2]
    rfl

/-- A text that is lowered to ASCII has its fold in ASCII. -/
theorem isExtended_kelvinFold_of_lowerFrom (before : Text)
    (h : ∀ d ∈ lowerFrom before t, d.isExtended = false) :
    ∀ d ∈ t.kelvinFold, d.isExtended = false := by
  induction t generalizing before with
  | nil => exact h
  | cons c t ih =>
    rw [lowerFrom, List.forall_mem_append] at h
    exact List.forall_mem_cons.mpr ⟨kelvinLower_of_lowerAt h.1, ih _ h.2⟩

/-- **Lower case in ASCII.**  A text has a given ASCII lower case exactly when folding its ASCII
    letters and Kelvin signs gives it: no other character is lowered into ASCII alone. -/
theorem lower_eq_iff_kelvinFold_eq (hu : ∀ c ∈ u, c.isExtended = false) :
    t.lower = u ↔ t.kelvinFold = u := by
  constructor
  · intro h
    rw [← h] at hu ⊢
    exact (lowerFrom_eq_kelvinFold [] (isExtended_kelvinFold_of_lowerFrom [] hu)).symm
  · intro h
    rw [← h] at hu ⊢
    exact lowerFrom_eq_kelvinFold [] hu

end Text

/-! ### Lower case of lower case -/

/-- No number that `r` leads to is one that `r'` maps: they lie apart, or `r'` takes every second
    number and passes over them. -/
def LowerRun.misses (r r' : LowerRun) : Bool :=
  r'.last.blt r.target || (r.target + (r.last - r.first)).blt r'.first ||
    r'.step == 2 && (r.target + r'.first) % 2 == 1 && (r.first == r.last || r.step == 2)

/-- The code point is its own lower case, whatever stands around it. -/
def CodePoint.IsLowered (c : CodePoint) : Prop := ∀ before after, Text.lowerAt before c after = [c]

namespace CodePoint

variable {c : CodePoint}

/-- No run leads to a number that a run maps. -/
theorem lowerRuns_misses : ∀ r ∈ lowerRuns, lowerRuns.all r.misses = true := by
  decide +kernel

/-- No run leads to the capitals that are lowered without the table. -/
theorem lowerRun_target_apart : ∀ r ∈ lowerRuns, ∀ d ∈ [capitalSigma, capitalDottedI],
    d.val < r.target ∨ r.target + (r.last - r.first) < d.val := by
  decide +kernel

/-- The table leaves alone what it leads to. -/
theorem lowerNumber_of_image {r : LowerRun} (hr : r ∈ lowerRuns) {n : Nat}
    (hc : r.contains n = true) :
    lowerNumber (r.target + (n - r.first)) = r.target + (n - r.first) := by
  rcases lowerNumber_cases (r.target + (n - r.first)) with h | ⟨r', hr', hc', _⟩
  · exact h
  · have hmisses := List.all_eq_true.mp (lowerRuns_misses r hr) r' hr'
    simp only [LowerRun.misses, LowerRun.contains, Bool.or_eq_true, Bool.and_eq_true, Nat.blt_eq,
      decide_eq_true_eq, beq_iff_eq] at hmisses hc hc'
    rcases hmisses with (hbelow | habove) | ⟨⟨htwo, hodd⟩, hstep⟩
    · omega
    · omega
    · -- the distance to the start of `r'` is odd, as that of `r.target` is
      rw [htwo] at hc'
      rcases hstep with hsingle | hstep
      · omega
      · rw [hstep] at hc
        omega

/-- A second time nothing is changed when a character is lowered by itself. -/
@[simp] theorem simpleLower_simpleLower (c : CodePoint) :
    c.simpleLower.simpleLower = c.simpleLower := by
  apply CodePoint.ext
  show lowerNumber (lowerNumber c.val) = lowerNumber c.val
  rcases lowerNumber_cases c.val with hstays | ⟨r, hr, hc, hmoves⟩
  · rw [hstays, hstays]
  · rw [hmoves, lowerNumber_of_image hr hc]

/-- Neither of the two capitals is the lower case of another character. -/
theorem simpleLower_ne {d : CodePoint} (hd : d ∈ [capitalSigma, capitalDottedI]) (hne : c ≠ d) :
    c.simpleLower ≠ d := by
  intro heq
  have hval : lowerNumber c.val = d.val := congrArg val heq
  rcases lowerNumber_cases c.val with hstays | ⟨r, hr, hc, hmoves⟩
  · exact hne (CodePoint.ext (hstays.symm.trans hval))
  · have hapart := lowerRun_target_apart r hr d hd
    simp only [LowerRun.contains, Bool.and_eq_true, decide_eq_true_eq] at hc
    omega

/-- What the tables lower is lowered for good, but for the sigma and the dotted I. -/
theorem isLowered_simpleLower (hsigma : c ≠ capitalSigma) (hdotted : c ≠ capitalDottedI) :
    c.simpleLower.IsLowered := by
  intro before after
  rw [Text.lowerAt, if_neg (simpleLower_ne (by simp) hsigma),
    if_neg (simpleLower_ne (by simp) hdotted), simpleLower_simpleLower]

end CodePoint

namespace Text

variable {t : Text}

/-- Lower-casing a character leaves nothing to be lowered: the small sigmas, the small i and the dot
    above it are in no run of the table. -/
theorem isLowered_of_mem_lowerAt (before : Text) (c : CodePoint) (after : Text) :
    ∀ d ∈ lowerAt before c after, d.IsLowered := by
  unfold lowerAt
  split
  · split <;> exact List.forall_mem_singleton.mpr fun _ _ => rfl
  · next hsigma =>
    split
    · exact List.forall_mem_cons.mpr ⟨fun _ _ => rfl, List.forall_mem_singleton.mpr fun _ _ => rfl⟩
    · next hdotted =>
      exact List.forall_mem_singleton.mpr (CodePoint.isLowered_simpleLower hsigma hdotted)

/-- A lowered text is made of characters that no lowering changes. -/
theorem isLowered_of_mem_lowerFrom (before t : Text) : ∀ d ∈ lowerFrom before t, d.IsLowered := by
  induction t generalizing before with
  | nil => exact fun d hd => nomatch hd
  | cons c t ih =>
    rw [lowerFrom, List.forall_mem_append]
    exact ⟨isLowered_of_mem_lowerAt before c t, ih (c :: before)⟩

/-- A text of characters that no lowering changes is its own lower case, wherever it stands. -/
theorem lowerFrom_eq_self (before : Text) (h : ∀ c ∈ t, c.IsLowered) : lowerFrom before t = t := by
  induction t generalizing before with
  | nil => rfl
  | cons c t ih =>
    rw [List.forall_mem_cons] at h
    rw [lowerFrom, h.1 before t, ih (c :: before) h.2, List.singleton_append]

/-- **Lowered texts.**  A text is its own lower case exactly if all of its characters are. -/
theorem lower_eq_self_iff : t.lower = t ↔ ∀ c ∈ t, c.IsLowered := by
  constructor
  · intro h
    rw [← h]
    exact isLowered_of_mem_lowerFrom [] t
  · exact lowerFrom_eq_self []

/-- A lower case is its own lower case. -/
@[simp] theorem lower_lower (t : Text) : t.lower.lower = t.lower :=
  lower_eq_self_iff.mpr (isLowered_of_mem_lowerFrom [] t)

end Text

end SchemaNaming
