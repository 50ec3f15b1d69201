import SchemaNaming.Identifier

namespace SchemaNaming

/-!
# Classes and case of ASCII characters

The classes of characters by their numbers, so that `omega` can settle which of them exclude one
another, and what the two case maps do to a number.

* `CodePoint.val_toAsciiLower`, `CodePoint.val_toAsciiUpper` — the case maps on numbers;
* `CodePoint.isPlainStart_toAsciiUpper` — capitals stand where small letters stand;
* `Text.asciiFold_capitalize` — a capitalized text differs from the text in case only.
-/

namespace CodePoint

variable {c : CodePoint}

/-! ### Classes by number -/

/-- The capital letters of ASCII, by their numbers. -/
theorem isAsciiUpper_iff : c.isAsciiUpper = true ↔ 0x41 ≤ c.val ∧ c.val ≤ 0x5A := by
  simp [isAsciiUpper]

/-- The small letters of ASCII, by their numbers. -/
theorem isAsciiLower_iff : c.isAsciiLower = true ↔ 0x61 ≤ c.val ∧ c.val ≤ 0x7A := by
  simp [isAsciiLower]

/-- The digits of ASCII, by their numbers. -/
theorem isAsciiDigit_iff : c.isAsciiDigit = true ↔ 0x30 ≤ c.val ∧ c.val ≤ 0x39 := by
  simp [isAsciiDigit]

/-- The characters beyond ASCII, by their numbers. -/
theorem isExtended_iff : c.isExtended = true ↔ 0x80 ≤ c.val := by
  simp [isExtended]

/-- The characters of ASCII, by their numbers. -/
theorem isExtended_eq_false_iff : c.isExtended = false ↔ c.val < 0x80 := by
  simp [isExtended]

/-- Two code points are the same when their numbers are. -/
theorem eq_ofChar_iff (d : Char) : c = ofChar d ↔ c.val = d.toNat := by
  rw [CodePoint.ext_iff, val_ofChar]

/-- The letters of ASCII and the underscore, by their numbers. -/
theorem isPlainStart_iff : c.isPlainStart = true ↔
    (0x41 ≤ c.val ∧ c.val ≤ 0x5A) ∨ (0x61 ≤ c.val ∧ c.val ≤ 0x7A) ∨ c.val = 0x5F := by
  simp only [isPlainStart, isAsciiLetter, Bool.or_eq_true, isAsciiUpper_iff, isAsciiLower_iff,
    beq_iff_eq, eq_ofChar_iff, or_assoc]
  rfl

/-- A label starts with a letter of ASCII, an underscore, or anything beyond ASCII. -/
theorem isLabelStart_iff :
    c.isLabelStart = true ↔ c.isPlainStart = true ∨ c.isExtended = true := by
  simp [isLabelStart]

/-- A label holds what it may start with, and digits. -/
theorem isLabelChar_iff :
    c.isLabelChar = true ↔ c.isLabelStart = true ∨ c.isAsciiDigit = true := by
  simp [isLabelChar]

/-- A label may start with a letter of ASCII or an underscore. -/
theorem isLabelStart_of_isPlainStart (h : c.isPlainStart = true) : c.isLabelStart = true :=
  isLabelStart_iff.mpr (Or.inl h)

/-- What starts a label may stand anywhere in it. -/
theorem isLabelChar_of_isLabelStart (h : c.isLabelStart = true) : c.isLabelChar = true :=
  isLabelChar_iff.mpr (Or.inl h)

/-- An ASCII letter, digit or underscore is an ASCII character. -/
theorem isExtended_of_isPlainStart (h : c.isPlainStart = true) : c.isExtended = false := by
  rw [isPlainStart_iff] at h
  rw [isExtended_eq_false_iff]
  omega

/-! ### The case maps -/

theorem val_toAsciiLower (c : CodePoint) : c.toAsciiLower.val =
    if 0x41 ≤ c.val ∧ c.val ≤ 0x5A then c.val + 0x20 else c.val := by
  unfold toAsciiLower
  by_cases h : c.isAsciiUpper
  · rw [dif_pos h, if_pos (isAsciiUpper_iff.mp h)]
  · rw [dif_neg h, if_neg (fun hc => h (isAsciiUpper_iff.mpr hc))]

theorem val_toAsciiUpper (c : CodePoint) : c.toAsciiUpper.val =
    if 0x61 ≤ c.val ∧ c.val ≤ 0x7A then c.val - 0x20 else c.val := by
  unfold toAsciiUpper
  by_cases h : c.isAsciiLower
  · rw [if_pos h, if_pos (isAsciiLower_iff.mp h)]
  · rw [if_neg h, if_neg (fun hc => h (isAsciiLower_iff.mpr hc))]

/-- Lower-casing undoes upper-casing, up to case. -/
@[simp] theorem toAsciiLower_toAsciiUpper (c : CodePoint) :
    c.toAsciiUpper.toAsciiLower = c.toAsciiLower := by
  ext
  rw [val_toAsciiLower, val_toAsciiLower, val_toAsciiUpper]
  by_cases h : 0x61 ≤ c.val ∧ c.val ≤ 0x7A
  · rw [if_pos h, if_pos (by omega), if_neg (by omega)]; omega
  · rw [if_neg h]

/-- Upper-casing undoes lower-casing, up to case. -/
@[simp] theorem toAsciiUpper_toAsciiLower (c : CodePoint) :
    c.toAsciiLower.toAsciiUpper = c.toAsciiUpper := by
  ext
  rw [val_toAsciiUpper, val_toAsciiUpper, val_toAsciiLower]
  by_cases h : 0x41 ≤ c.val ∧ c.val ≤ 0x5A
  · rw [if_pos h, if_pos (by omega), if_neg (by omega)]; omega
  · rw [if_neg h]

/-- A small letter is its own small letter. -/
@[simp] theorem toAsciiLower_toAsciiLower (c : CodePoint) :
    c.toAsciiLower.toAsciiLower = c.toAsciiLower := by
  ext
  rw [val_toAsciiLower c.toAsciiLower, val_toAsciiLower c]
  by_cases h : 0x41 ≤ c.val ∧ c.val ≤ 0x5A
  · rw [if_pos h, if_neg (by omega)]
  · rw [if_neg h, if_neg h]

@[simp] theorem isExtended_toAsciiLower (c : CodePoint) :
    c.toAsciiLower.isExtended = c.isExtended := by
  rw [Bool.eq_iff_iff, isExtended_iff, isExtended_iff, val_toAsciiLower]
  split <;> omega

@[simp] theorem isExtended_toAsciiUpper (c : CodePoint) :
    c.toAsciiUpper.isExtended = c.isExtended := by
  rw [Bool.eq_iff_iff, isExtended_iff, isExtended_iff, val_toAsciiUpper]
  split <;> omega

/-- A character beyond ASCII has no other case. -/
theorem toAsciiLower_of_isExtended (h : c.isExtended = true) : c.toAsciiLower = c := by
  rw [isExtended_iff] at h
  ext
  rw [val_toAsciiLower, if_neg (by omega)]

/-- Beyond ASCII every character is its own capital letter. -/
theorem toAsciiUpper_of_isExtended (h : c.isExtended = true) : c.toAsciiUpper = c := by
  rw [isExtended_iff] at h
  ext
  rw [val_toAsciiUpper, if_neg (by omega)]

/-- The letters of ASCII and the underscore are so in either case. -/
@[simp] theorem isPlainStart_toAsciiUpper (c : CodePoint) :
    c.toAsciiUpper.isPlainStart = c.isPlainStart := by
  rw [Bool.eq_iff_iff, isPlainStart_iff, isPlainStart_iff, val_toAsciiUpper]
  split <;> omega

@[simp] theorem isAsciiDigit_toAsciiUpper (c : CodePoint) :
    c.toAsciiUpper.isAsciiDigit = c.isAsciiDigit := by
  rw [Bool.eq_iff_iff, isAsciiDigit_iff, isAsciiDigit_iff, val_toAsciiUpper]
  split <;> omega

/-- What does not mind capitals does not mind small letters, for these have the same capitals. -/
theorem apply_toAsciiLower_of_toAsciiUpper {α : Type} {f : CodePoint → α}
    (h : ∀ c, f c.toAsciiUpper = f c) (c : CodePoint) : f c.toAsciiLower = f c := by
  rw [← h c.toAsciiLower, toAsciiUpper_toAsciiLower, h c]

@[simp] theorem isPlainStart_toAsciiLower (c : CodePoint) :
    c.toAsciiLower.isPlainStart = c.isPlainStart :=
  apply_toAsciiLower_of_toAsciiUpper isPlainStart_toAsciiUpper c

@[simp] theorem isAsciiDigit_toAsciiLower (c : CodePoint) :
    c.toAsciiLower.isAsciiDigit = c.isAsciiDigit :=
  apply_toAsciiLower_of_toAsciiUpper isAsciiDigit_toAsciiUpper c

/-- A character that is no letter is the only one with its lower case. -/
theorem eq_of_toAsciiLower_eq {d : CodePoint} (h : c.toAsciiLower = d.toAsciiLower)
    (hd : d.isAsciiLetter = false) : c = d := by
  rw [CodePoint.ext_iff, val_toAsciiLower, val_toAsciiLower] at h
  rw [isAsciiLetter, Bool.or_eq_false_iff, Bool.eq_false_iff, Bool.eq_false_iff, Ne,
    isAsciiUpper_iff, Ne, isAsciiLower_iff] at hd
  ext
  split at h <;> split at h <;> omega

/-- What is no letter of ASCII has no small letter of its own. -/
theorem toAsciiLower_of_not_isAsciiLetter (h : c.isAsciiLetter = false) : c.toAsciiLower = c :=
  eq_of_toAsciiLower_eq (toAsciiLower_toAsciiLower c) h

/-- Labels do not mind the case of their letters. -/
@[simp] theorem isLabelChar_toAsciiUpper (c : CodePoint) :
    c.toAsciiUpper.isLabelChar = c.isLabelChar := by
  simp [isLabelChar, isLabelStart]

end CodePoint

/-! ### Folds of texts -/

namespace Text

@[simp] theorem asciiFold_nil : asciiFold [] = [] := rfl

/-- Capitalizing changes nothing but the case of a letter. -/
@[simp] theorem asciiFold_capitalize (t : Text) : t.capitalize.asciiFold = t.asciiFold := by
  cases t with
  | nil => rfl
  | cons c rest => simp [capitalize, asciiFold]

end Text

end SchemaNaming
