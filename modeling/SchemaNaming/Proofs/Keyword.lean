import SchemaNaming.Proofs.Lowercase
import SchemaNaming.Proofs.NormalForm

namespace SchemaNaming

/-!
# Keywords and their spellings

Keywords are spelled with small letters and underscores, so a text is a keyword exactly when its
fold is one, and each keyword is its own normal form.

* `keyword_spelling` — the facts about the list of keywords on which all others rest;
* `Text.isKeyword_iff` — the texts that are keywords;
* `normalize_keyword` — a keyword is kept by the normal form;
* `kelvinFold_append_mem_keywords_iff`, `append_kelvinFold_mem_keywords_iff` — no Kelvin sign stands
  in front of a keyword in another, or behind it.
-/

/-- The characters that keywords are spelled with: small letters and the underscore. -/
def CodePoint.isKeywordChar (c : CodePoint) : Bool := c.isAsciiLower || c == ofChar '_'

/-- Every keyword has a character, all of its characters are small letters or underscores, and the
    letter `k`, which the Kelvin sign shares with them, can only be its last one. -/
theorem keyword_spelling : ∀ k ∈ keywords,
    k ≠ [] ∧ (∀ c ∈ k, c.isKeywordChar = true) ∧ CodePoint.ofChar 'k' ∉ k.dropLast := by
  decide +kernel

/-- The characters of keywords, by their numbers. -/
theorem CodePoint.isKeywordChar_iff {c : CodePoint} :
    c.isKeywordChar = true ↔ (0x61 ≤ c.val ∧ c.val ≤ 0x7A) ∨ c.val = 0x5F := by
  simp only [isKeywordChar, Bool.or_eq_true, isAsciiLower_iff, beq_iff_eq, eq_ofChar_iff]
  rfl

/-- The characters of keywords may start a label. -/
theorem CodePoint.isPlainStart_of_isKeywordChar {c : CodePoint} (h : c.isKeywordChar = true) :
    c.isPlainStart = true := by
  rw [isKeywordChar_iff] at h
  rw [isPlainStart_iff]
  omega

/-- The characters of keywords are in lower case. -/
theorem CodePoint.toAsciiLower_of_isKeywordChar {c : CodePoint} (h : c.isKeywordChar = true) :
    c.toAsciiLower = c := by
  rw [isKeywordChar_iff] at h
  ext
  rw [val_toAsciiLower, if_neg (by omega)]

/-- What is folded into a character of keywords is a letter or an underscore, or the Kelvin sign, so an
    identifier may start with it. -/
theorem CodePoint.isIdentifierStart_of_kelvinLower {c : CodePoint}
    (h : c.kelvinLower.isKeywordChar = true) : c.isIdentifierStart = true := by
  have hascii := isExtended_of_isPlainStart (isPlainStart_of_isKeywordChar h)
  rcases isExtended_kelvinLower.mp hascii with hc | rfl
  · apply isIdentifierStart_of_isPlainStart
    rw [kelvinLower_of_not_isExtended hc, isKeywordChar_iff, val_toAsciiLower] at h
    rw [isPlainStart_iff]
    split at h <;> omega
  · decide

section Spelling

variable {k : Text}

/-- A keyword is an ASCII text. -/
theorem isExtended_of_mem_keyword (hk : k ∈ keywords) : ∀ c ∈ k, c.isExtended = false := by
  intro c hc
  have hchar := (keyword_spelling k hk).2.1 c hc
  exact CodePoint.isExtended_of_isPlainStart (CodePoint.isPlainStart_of_isKeywordChar hchar)

/-- A keyword has no capital letters. -/
theorem asciiFold_keyword (hk : k ∈ keywords) : k.asciiFold = k := by
  have hchars := (keyword_spelling k hk).2.1
  rw [Text.asciiFold]
  calc k.map CodePoint.toAsciiLower = k.map id :=
        List.map_congr_left fun c hc => CodePoint.toAsciiLower_of_isKeywordChar (hchars c hc)
    _ = k := List.map_id k

/-- Every listed keyword is its own fold. -/
theorem kelvinFold_keyword (hk : k ∈ keywords) : k.kelvinFold = k := by
  have hsign : CodePoint.kelvinSign ∉ k := by
    intro hmem
    exact absurd (isExtended_of_mem_keyword hk _ hmem) (by decide)
  rw [Text.kelvinFold_eq_asciiFold hsign, asciiFold_keyword hk]

/-- Every listed keyword starts plainly. -/
theorem startsPlain_keyword (hk : k ∈ keywords) : k.startsPlain = true := by
  obtain ⟨hne, hchars, _⟩ := keyword_spelling k hk
  cases k with
  | nil => exact absurd rfl hne
  | cons c k => exact CodePoint.isPlainStart_of_isKeywordChar (hchars c List.mem_cons_self)

/-- A keyword would be an identifier if it were none. -/
theorem isIdentifier_keyword (hk : k ∈ keywords) : k.isIdentifier true = true := by
  obtain ⟨hne, hchars, _⟩ := keyword_spelling k hk
  have hstart : ∀ c ∈ k, c.isIdentifierStart = true := fun c hc =>
    CodePoint.isIdentifierStart_of_isPlainStart
      (CodePoint.isPlainStart_of_isKeywordChar (hchars c hc))
  cases k with
  | nil => exact absurd rfl hne
  | cons c k =>
    rw [List.forall_mem_cons] at hstart
    refine (Text.isIdentifier_cons_iff c k).mpr ⟨hstart.1, fun d hd => ?_⟩
    exact CodePoint.isIdentifierChar_of_isIdentifierStart (hstart.2 d hd)

/-- The normal form keeps keywords, whatever the prefix. -/
theorem normalize_keyword (hk : k ∈ keywords) (namePrefix : Text) :
    (RawValue.text k).normalize namePrefix = .ok k :=
  RawValue.normalize_text_of_ascii namePrefix (isIdentifier_keyword hk) (startsPlain_keyword hk)
    (isExtended_of_mem_keyword hk)

end Spelling

namespace Text

/-- **Keywords by their fold.**  A text is a keyword exactly when it is spelled like one, but for the
    case of ASCII letters and Kelvin signs in the place of a `k`. -/
theorem isKeyword_iff (t : Text) : t.isKeyword = true ↔ t.kelvinFold ∈ keywords := by
  rw [isKeyword, List.contains_iff_mem]
  constructor
  · intro h
    rwa [(lower_eq_iff_kelvinFold_eq (isExtended_of_mem_keyword h)).mp rfl]
  · intro h
    rwa [(lower_eq_iff_kelvinFold_eq (isExtended_of_mem_keyword h)).mpr rfl]

/-- What is listed as a keyword is one. -/
theorem isKeyword_of_mem {t : Text} (h : t ∈ keywords) : t.isKeyword = true := by
  rwa [isKeyword_iff, kelvinFold_keyword h]

/-- Whatever differs from a keyword in the case of ASCII letters only is a keyword. -/
theorem isKeyword_of_asciiFold_mem {t : Text} (h : t.asciiFold ∈ keywords) :
    t.isKeyword = true := by
  rwa [isKeyword_iff, ← kelvinFold_asciiFold, kelvinFold_keyword h]

/-- In whatever case it is written, a keyword is made of identifier characters. -/
theorem isIdentifierChar_of_isKeyword {t : Text} (h : t.isKeyword = true) :
    ∀ c ∈ t, c.isIdentifierChar = true := by
  intro c hc
  rw [isKeyword_iff] at h
  have hchar : c.kelvinLower.isKeywordChar = true :=
    (keyword_spelling _ h).2.1 _ (List.mem_map_of_mem hc)
  exact CodePoint.isIdentifierChar_of_isIdentifierStart
    (CodePoint.isIdentifierStart_of_kelvinLower hchar)

/-- A text with a digit is no keyword. -/
theorem not_isKeyword_of_isAsciiDigit {t : Text} {c : CodePoint} (hc : c ∈ t)
    (h : c.isAsciiDigit = true) : t.isKeyword = false := by
  rw [Bool.eq_false_iff, Ne, isKeyword_iff]
  intro hmem
  have hchar : c.kelvinLower.isKeywordChar = true :=
    (keyword_spelling _ hmem).2.1 _ (List.mem_map_of_mem hc)
  have hstart := CodePoint.isIdentifierStart_of_kelvinLower hchar
  rw [CodePoint.isIdentifierStart_iff_not_isAsciiDigit, h] at hstart
  exact Bool.noConfusion hstart.2

end Text

/-- No Kelvin sign can stand in front of a keyword to make another keyword, since the letter `k` is
    found at the end of keywords only.  So it does not matter which fold is taken there. -/
theorem kelvinFold_append_mem_keywords_iff (t : Text) {k : Text} (hk : k ∈ keywords) :
    t.kelvinFold ++ k ∈ keywords ↔ t.asciiFold ++ k ∈ keywords := by
  constructor
  · intro h
    have hletter : CodePoint.ofChar 'k' ∉ t.kelvinFold := by
      intro hmem
      apply (keyword_spelling _ h).2.2
      rw [List.dropLast_append_of_ne_nil (keyword_spelling k hk).1]
      exact List.mem_append_left _ hmem
    rwa [← Text.kelvinFold_eq_asciiFold_of_not_mem hletter]
  · intro h
    have hfold := kelvinFold_keyword h
    rw [Text.kelvinFold_append, Text.kelvinFold_asciiFold, kelvinFold_keyword hk] at hfold
    rwa [hfold]

/-- A keyword that is spelled with the letter `k` has no other keyword in front. -/
theorem eq_of_prefix_keyword : ∀ k' ∈ keywords, CodePoint.ofChar 'k' ∈ k' →
    ∀ k ∈ keywords, k <+: k' → k = k' := by
  decide +kernel

/-- No Kelvin sign can stand behind a keyword to make another keyword either. -/
theorem append_kelvinFold_mem_keywords_iff {k : Text} (hk : k ∈ keywords) (t : Text) :
    k ++ t.kelvinFold ∈ keywords ↔ k ++ t.asciiFold ∈ keywords := by
  constructor
  · intro h
    have hletter : CodePoint.ofChar 'k' ∉ t.kelvinFold := by
      intro hmem
      have heq : k = k ++ t.kelvinFold :=
        eq_of_prefix_keyword _ h (List.mem_append_right k hmem) k hk (List.prefix_append k _)
      rw [List.self_eq_append_right] at heq
      rw [heq] at hmem
      exact nomatch hmem
    rwa [← Text.kelvinFold_eq_asciiFold_of_not_mem hletter]
  · intro h
    have hfold := kelvinFold_keyword h
    rw [Text.kelvinFold_append, Text.kelvinFold_asciiFold, kelvinFold_keyword hk] at hfold
    rwa [hfold]

end SchemaNaming
