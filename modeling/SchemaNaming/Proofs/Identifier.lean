import SchemaNaming.Proofs.AsciiCase

namespace SchemaNaming

/-!
# What identifiers are made of

An identifier is put together from visible label characters, the first of which is no digit.  So a
text that follows an identifier can only spoil it by one of its own characters.

* `Text.isIdentifier_cons_iff` — the grammar of identifiers, character by character;
* `Text.isIdentifier_append_iff` — what may follow the beginning of an identifier;
* `CodePoint.isInvisible_of_isSurrogate` — no identifier holds half of a surrogate pair.
-/

namespace CodePoint

variable {c : CodePoint}

/-! ### Visible characters -/

/-- Invisible characters are found beyond ASCII only. -/
theorem isInvisible_of_not_isExtended (h : c.isExtended = false) : c.isInvisible = false := by
  have hranges : ∀ r ∈ invisibleRanges, 0x80 ≤ r.1 := by decide
  rw [isExtended_eq_false_iff] at h
  rw [isInvisible, Bool.eq_false_iff]
  intro hin
  obtain ⟨r, hr, hle, _⟩ := (inRanges_iff _ c).mp hin
  have := hranges r hr
  omega

/-- No surrogate can be read. -/
theorem isInvisible_of_isSurrogate (h : c.isSurrogate = true) : c.isInvisible = true := by
  simp only [isSurrogate, Bool.and_eq_true, decide_eq_true_eq] at h
  exact (inRanges_iff _ c).mpr ⟨(0xD800, 0xDFFF), by decide, h⟩

/-- An identifier holds what a label may hold and what can be read. -/
theorem isIdentifierChar_iff :
    c.isIdentifierChar = true ↔ c.isLabelChar = true ∧ c.isInvisible = false := by
  simp [isIdentifierChar]

/-- An identifier starts with what a label may start with and what can be read. -/
theorem isIdentifierStart_iff :
    c.isIdentifierStart = true ↔ c.isLabelStart = true ∧ c.isInvisible = false := by
  simp [isIdentifierStart]

/-- What starts an identifier may stand anywhere in it. -/
theorem isIdentifierChar_of_isIdentifierStart (h : c.isIdentifierStart = true) :
    c.isIdentifierChar = true := by
  rw [isIdentifierStart_iff] at h
  exact isIdentifierChar_iff.mpr ⟨isLabelChar_of_isLabelStart h.1, h.2⟩

/-- A letter or an underscore is visible. -/
theorem isIdentifierStart_of_isPlainStart (h : c.isPlainStart = true) :
    c.isIdentifierStart = true :=
  isIdentifierStart_iff.mpr ⟨isLabelStart_of_isPlainStart h,
    isInvisible_of_not_isExtended (isExtended_of_isPlainStart h)⟩

/-- An identifier may hold digits. -/
theorem isIdentifierChar_of_isAsciiDigit (h : c.isAsciiDigit = true) :
    c.isIdentifierChar = true := by
  refine isIdentifierChar_iff.mpr ⟨isLabelChar_iff.mpr (Or.inr h), ?_⟩
  rw [isAsciiDigit_iff] at h
  exact isInvisible_of_not_isExtended (isExtended_eq_false_iff.mpr (by omega))

/-- A digit starts no label, and it is the only identifier character that does not start one. -/
theorem isIdentifierStart_iff_not_isAsciiDigit :
    c.isIdentifierStart = true ↔ c.isIdentifierChar = true ∧ c.isAsciiDigit = false := by
  have happart : c.isLabelStart = true → c.isAsciiDigit = false := by
    intro hstart
    rw [isLabelStart_iff, isPlainStart_iff, isExtended_iff] at hstart
    rw [Bool.eq_false_iff, Ne, isAsciiDigit_iff]
    omega
  rw [isIdentifierStart_iff, isIdentifierChar_iff, isLabelChar_iff]
  constructor
  · rintro ⟨hstart, hvisible⟩
    exact ⟨⟨Or.inl hstart, hvisible⟩, happart hstart⟩
  · rintro ⟨⟨hstart | hdigit, hvisible⟩, hno⟩
    · exact ⟨hstart, hvisible⟩
    · exact Bool.noConfusion (hdigit.symm.trans hno)

/-- Identifiers do not mind the case of their letters. -/
@[simp] theorem isIdentifierChar_toAsciiUpper (c : CodePoint) :
    c.toAsciiUpper.isIdentifierChar = c.isIdentifierChar := by
  cases h : c.isExtended with
  | true => rw [toAsciiUpper_of_isExtended h]
  | false =>
    have hup : c.toAsciiUpper.isExtended = false := by rw [isExtended_toAsciiUpper, h]
    simp [isIdentifierChar, isInvisible_of_not_isExtended h, isInvisible_of_not_isExtended hup]

@[simp] theorem isIdentifierChar_toAsciiLower (c : CodePoint) :
    c.toAsciiLower.isIdentifierChar = c.isIdentifierChar :=
  apply_toAsciiLower_of_toAsciiUpper isIdentifierChar_toAsciiUpper c

end CodePoint

namespace Text

variable {t u : Text}

/-! ### The grammar of identifiers -/

/-- A label is told by its first character and the others. -/
theorem isLabel_cons_iff (c : CodePoint) (t : Text) : isLabel (c :: t) = true ↔
    c.isLabelStart = true ∧ ∀ d ∈ t, d.isLabelChar = true := by
  simp [isLabel]

/-- An identifier may be a keyword, if that is allowed. -/
theorem isIdentifier_iff (t : Text) :
    t.isIdentifier = true ↔ t.isIdentifier true = true ∧ t.isKeyword = false := by
  simp [isIdentifier]

/-- A keyword is no identifier, unless keywords are allowed. -/
theorem isIdentifier_of_isKeyword (h : t.isKeyword = true) : t.isIdentifier = false := by
  simp [isIdentifier, h]

/-- Every identifier is a label. -/
theorem isLabel_of_isIdentifier (h : t.isIdentifier true = true) : t.isLabel = true := by
  simp only [isIdentifier, Bool.and_eq_true] at h
  exact h.1.1

/-- The empty text is no identifier. -/
theorem isIdentifier_ne_nil (h : t.isIdentifier true = true) : t ≠ [] := by
  rintro rfl
  simp [isIdentifier, isLabel] at h

/-- An identifier starts like a label and goes on like a label, and all of it can be seen. -/
theorem isIdentifier_cons_iff (c : CodePoint) (t : Text) : isIdentifier (c :: t) true = true ↔
    c.isIdentifierStart = true ∧ ∀ d ∈ t, d.isIdentifierChar = true := by
  simp only [isIdentifier, Bool.true_or, Bool.and_true, Bool.and_eq_true, isLabel_cons_iff,
    Bool.not_eq_true', List.any_eq_false, List.forall_mem_cons, Bool.not_eq_true,
    CodePoint.isIdentifierStart_iff, CodePoint.isIdentifierChar_iff]
  constructor
  · rintro ⟨⟨hc, ht⟩, hvc, hvt⟩
    exact ⟨⟨hc, hvc⟩, fun d hd => ⟨ht d hd, hvt d hd⟩⟩
  · rintro ⟨⟨hc, hvc⟩, ht⟩
    exact ⟨⟨hc, fun d hd => (ht d hd).1⟩, hvc, fun d hd => (ht d hd).2⟩

/-- What follows the beginning of an identifier has to be made of identifier characters. -/
theorem isIdentifier_append_iff (ht : t ≠ []) : (t ++ u).isIdentifier true = true ↔
    t.isIdentifier true = true ∧ ∀ d ∈ u, d.isIdentifierChar = true := by
  cases t with
  | nil => exact absurd rfl ht
  | cons c t =>
    rw [List.cons_append, isIdentifier_cons_iff, isIdentifier_cons_iff, List.forall_mem_append,
      and_assoc]

/-- Identifier characters may follow an identifier. -/
theorem isIdentifier_append (ht : t.isIdentifier true = true)
    (hu : ∀ d ∈ u, d.isIdentifierChar = true) : (t ++ u).isIdentifier true = true :=
  (isIdentifier_append_iff (isIdentifier_ne_nil ht)).mpr ⟨ht, hu⟩

/-- An identifier is made of identifier characters. -/
theorem isIdentifierChar_of_mem (ht : t.isIdentifier true = true) :
    ∀ d ∈ t, d.isIdentifierChar = true := by
  cases t with
  | nil => intro d hd; cases hd
  | cons c t =>
    obtain ⟨hc, hrest⟩ := (isIdentifier_cons_iff c t).mp ht
    exact List.forall_mem_cons.mpr ⟨CodePoint.isIdentifierChar_of_isIdentifierStart hc, hrest⟩

/-- Capitalizing does not spoil what may follow the beginning of an identifier. -/
theorem isIdentifierChar_of_mem_capitalize (ht : ∀ d ∈ t, d.isIdentifierChar = true) :
    ∀ d ∈ t.capitalize, d.isIdentifierChar = true := by
  cases t with
  | nil => exact ht
  | cons c t => simpa [capitalize] using ht

/-- An identifier can be encoded: it holds no surrogate. -/
theorem isSurrogate_of_mem_isIdentifier (ht : t.isIdentifier true = true) :
    ∀ d ∈ t, d.isSurrogate = false := by
  intro d hd
  rw [Bool.eq_false_iff]
  intro hs
  have hv := (CodePoint.isIdentifierChar_iff.mp (isIdentifierChar_of_mem ht d hd)).2
  rw [CodePoint.isInvisible_of_isSurrogate hs] at hv
  exact Bool.noConfusion hv

/-- The decimal numeral of a number is made of digits. -/
theorem isAsciiDigit_of_mem_ofNat (n : Nat) : ∀ d ∈ ofNat n, d.isAsciiDigit = true := by
  intro d hd
  simp only [ofNat, ofString, List.mem_map, Nat.toList_repr] at hd
  obtain ⟨c, hc, rfl⟩ := hd
  have hdigit := Nat.isDigit_of_mem_toDigits (by decide) (by decide) hc
  simp only [Char.isDigit, Bool.and_eq_true, decide_eq_true_eq, ge_iff_le,
    UInt32.le_iff_toNat_le] at hdigit
  exact CodePoint.isAsciiDigit_iff.mpr hdigit

end Text

end SchemaNaming
