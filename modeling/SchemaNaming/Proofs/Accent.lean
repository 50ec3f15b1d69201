import SchemaNaming.Proofs.Identifier
import SchemaNaming.Text.Accent

namespace SchemaNaming

/-!
# Plain spellings

The table of accents spells visible characters beyond ASCII with one or two ASCII letters.  So the
plain spelling of a text has no accents left, is made of identifier characters if the text is,
differs from the text wherever there is an accent, and does not depend on whether the text is cleaned
before or after.

* `CodePoint.isAccented` — the letters that the table spells;
* `accentTable_entry` — the facts about the table on which all others rest;
* `Text.isAccented_of_mem_removeAccents` — a plain spelling has no accents;
* `Text.removeAccents_eq_self_iff` — the texts that are spelled plainly;
* `Text.removeAccents_filter` — a pass that keeps what identifiers start with may come first or last;
* `Text.removeAccents_laws` — the laws of plain spelling, for all texts.
-/

/-- The table of accents spells the letter. -/
def CodePoint.isAccented (c : CodePoint) : Bool := (accentTable.lookup c).isSome

/-- Every letter of the table is a visible character beyond ASCII, and is spelled with one or two
    ASCII letters. -/
theorem accentTable_entry : ∀ e ∈ accentTable,
    (e.1.isExtended = true ∧ e.1.isInvisible = false) ∧
    (e.2.length = 1 ∨ e.2.length = 2) ∧ ∀ c ∈ e.2, c.isAsciiLetter = true := by
  decide +kernel

namespace CodePoint

variable {c : CodePoint}

/-! ### One character -/

/-- A character without an accent is spelled by itself. -/
theorem plain_of_not_isAccented (h : c.isAccented = false) : c.plain = [c] := by
  have hlookup : accentTable.lookup c = none := by simpa [isAccented] using h
  rw [plain, hlookup, Option.getD_none]

/-- An accented letter stands in the table together with its plain spelling. -/
theorem mem_accentTable_of_isAccented (h : c.isAccented = true) : (c, c.plain) ∈ accentTable := by
  obtain ⟨spelling, hlookup⟩ := Option.isSome_iff_exists.mp h
  have hplain : c.plain = spelling := by rw [plain, hlookup, Option.getD_some]
  obtain ⟨before, after, htable, _⟩ := List.lookup_eq_some_iff.mp hlookup
  rw [hplain, htable]
  exact List.mem_append_right before List.mem_cons_self

/-- Accents are found beyond ASCII only. -/
theorem isAccented_of_not_isExtended (h : c.isExtended = false) : c.isAccented = false := by
  rw [Bool.eq_false_iff]
  intro hacc
  have hext := (accentTable_entry _ (mem_accentTable_of_isAccented hacc)).1.1
  exact Bool.noConfusion (h.symm.trans hext)

/-- An accented letter is spelled with ASCII letters. -/
theorem isPlainStart_of_mem_plain (h : c.isAccented = true) :
    ∀ d ∈ c.plain, d.isPlainStart = true := by
  intro d hd
  have hletter := (accentTable_entry _ (mem_accentTable_of_isAccented h)).2.2 d hd
  rw [isPlainStart, hletter, Bool.true_or]

/-- A character is spelled with one character or with two. -/
theorem length_plain (c : CodePoint) : c.plain.length = 1 ∨ c.plain.length = 2 := by
  cases h : c.isAccented with
  | false => exact Or.inl (by rw [plain_of_not_isAccented h]; rfl)
  | true => exact (accentTable_entry _ (mem_accentTable_of_isAccented h)).2.1

/-- A character does not vanish when it is spelled plainly. -/
theorem plain_ne_nil (c : CodePoint) : c.plain ≠ [] := by
  have hlength := c.length_plain
  intro hnil
  rw [hnil] at hlength
  simp at hlength

/-- Nothing in a plain spelling is accented. -/
theorem isAccented_of_mem_plain (c : CodePoint) : ∀ d ∈ c.plain, d.isAccented = false := by
  intro d hd
  cases h : c.isAccented with
  | false =>
    rw [plain_of_not_isAccented h, List.mem_singleton] at hd
    rw [hd, h]
  | true =>
    have hstart := isPlainStart_of_mem_plain h d hd
    exact isAccented_of_not_isExtended (isExtended_of_isPlainStart hstart)

/-- An identifier may start with an accented letter: it is visible and lies beyond ASCII. -/
theorem isIdentifierStart_of_isAccented (h : c.isAccented = true) : c.isIdentifierStart = true := by
  obtain ⟨hext, hvisible⟩ := (accentTable_entry _ (mem_accentTable_of_isAccented h)).1
  exact isIdentifierStart_iff.mpr ⟨isLabelStart_iff.mpr (Or.inr hext), hvisible⟩

/-- A test that is passed by all that identifiers start with does not tell a character from its plain
    spelling. -/
theorem eq_of_mem_plain {test : CodePoint → Bool}
    (htest : ∀ c, c.isIdentifierStart = true → test c = true) :
    ∀ d ∈ c.plain, test d = test c := by
  intro d hd
  cases h : c.isAccented with
  | false =>
    rw [plain_of_not_isAccented h, List.mem_singleton] at hd
    rw [hd]
  | true =>
    have hletter := isIdentifierStart_of_isPlainStart (isPlainStart_of_mem_plain h d hd)
    rw [htest d hletter, htest c (isIdentifierStart_of_isAccented h)]

/-- An identifier character is spelled with identifier characters. -/
theorem isIdentifierChar_of_mem_plain (hc : c.isIdentifierChar = true) :
    ∀ d ∈ c.plain, d.isIdentifierChar = true := by
  intro d hd
  rw [eq_of_mem_plain (fun _ => isIdentifierChar_of_isIdentifierStart) d hd, hc]

end CodePoint

namespace Text

variable {t : Text}

/-! ### Texts -/

/-- A plain spelling has no accents. -/
theorem isAccented_of_mem_removeAccents (t : Text) :
    ∀ d ∈ t.removeAccents, d.isAccented = false := by
  rw [removeAccents, List.forall_mem_flatMap]
  exact fun c _ => CodePoint.isAccented_of_mem_plain c

/-- Identifier characters are spelled with identifier characters. -/
theorem isIdentifierChar_of_mem_removeAccents (h : ∀ c ∈ t, c.isIdentifierChar = true) :
    ∀ d ∈ t.removeAccents, d.isIdentifierChar = true := by
  rw [removeAccents, List.forall_mem_flatMap]
  exact fun c hc => CodePoint.isIdentifierChar_of_mem_plain (h c hc)

/-- Only the empty text is spelled by nothing. -/
theorem removeAccents_eq_nil_iff : t.removeAccents = [] ↔ t = [] := by
  cases t with
  | nil => exact Iff.rfl
  | cons c t => simp [CodePoint.plain_ne_nil]

/-- A plain spelling is no shorter than the text, and at most twice as long. -/
theorem length_removeAccents_bounds (t : Text) :
    t.length ≤ t.removeAccents.length ∧ t.removeAccents.length ≤ 2 * t.length := by
  induction t with
  | nil => exact ⟨Nat.le_refl 0, Nat.le_refl 0⟩
  | cons c t ih =>
    have hlength := c.length_plain
    rw [removeAccents_cons, List.length_append, List.length_cons]
    omega

/-- **Plain texts.**  A text is its own plain spelling exactly if it has no accents. -/
theorem removeAccents_eq_self_iff : t.removeAccents = t ↔ ∀ c ∈ t, c.isAccented = false := by
  constructor
  · intro h
    rw [← h]
    exact isAccented_of_mem_removeAccents t
  · intro h
    induction t with
    | nil => rfl
    | cons c t ih =>
      rw [List.forall_mem_cons] at h
      rw [removeAccents_cons, CodePoint.plain_of_not_isAccented h.1, ih h.2,
        List.singleton_append]

/-- A plain spelling is its own plain spelling. -/
@[simp] theorem removeAccents_removeAccents (t : Text) :
    t.removeAccents.removeAccents = t.removeAccents :=
  removeAccents_eq_self_iff.mpr (isAccented_of_mem_removeAccents t)

/-! ### Plain spellings and other passes -/

/-- What is dropped of a text may be dropped of its plain spelling instead, as long as everything is
    kept that an identifier may start with. -/
theorem removeAccents_filter {keep : CodePoint → Bool}
    (hkeep : ∀ c, c.isIdentifierStart = true → keep c = true) (t : Text) :
    removeAccents (t.filter keep) = t.removeAccents.filter keep := by
  induction t with
  | nil => rfl
  | cons c t ih =>
    have hplain := CodePoint.eq_of_mem_plain (c := c) hkeep
    rw [removeAccents_cons, List.filter_append, ← ih]
    -- a spelling is kept or dropped as a whole, with its character
    cases hc : keep c with
    | true =>
      have hall : c.plain.filter keep = c.plain :=
        List.filter_eq_self.mpr fun d hd => (hplain d hd).trans hc
      rw [List.filter_cons_of_pos hc, removeAccents_cons, hall]
    | false =>
      have hnone : c.plain.filter keep = [] :=
        List.filter_eq_nil_iff.mpr fun d hd => by rw [hplain d hd, hc]; exact Bool.false_ne_true
      rw [List.filter_cons_of_neg (by rw [hc]; exact Bool.false_ne_true), hnone, List.nil_append]

/-- Invisible characters may be dropped before accents are removed, or after it. -/
theorem removeAccents_stripInvisible (t : Text) :
    t.stripInvisible.removeAccents = t.removeAccents.stripInvisible :=
  removeAccents_filter (fun c hc => by rw [(CodePoint.isIdentifierStart_iff.mp hc).2]; rfl) t

/-- What no label holds may be dropped before accents are removed, or after it. -/
theorem removeAccents_filter_isLabelChar (t : Text) :
    removeAccents (t.filter CodePoint.isLabelChar) =
      t.removeAccents.filter CodePoint.isLabelChar :=
  removeAccents_filter (fun _ hc =>
    CodePoint.isLabelChar_of_isLabelStart (CodePoint.isIdentifierStart_iff.mp hc).1) t

/-- **Laws of plain spelling.**  Texts behind one another are spelled one after the other.  A plain
    spelling has no accents, so it is its own plain spelling, and the texts without accents are all
    that are left alone.  It is as long as the text at least, and twice as long at most.  Invisible
    characters, and characters that no label holds, may be dropped before or after. -/
theorem removeAccents_laws (x y : Text) :
    (x ++ y).removeAccents = x.removeAccents ++ y.removeAccents ∧
    (∀ c ∈ x.removeAccents, c.isAccented = false) ∧
    x.removeAccents.removeAccents = x.removeAccents ∧
    (x.removeAccents = x ↔ ∀ c ∈ x, c.isAccented = false) ∧
    (x.length ≤ x.removeAccents.length ∧ x.removeAccents.length ≤ 2 * x.length) ∧
    x.stripInvisible.removeAccents = x.removeAccents.stripInvisible ∧
    removeAccents (x.filter CodePoint.isLabelChar) =
      x.removeAccents.filter CodePoint.isLabelChar := by
  have hlength := length_removeAccents_bounds x
  exact ⟨removeAccents_append x y, isAccented_of_mem_removeAccents x, removeAccents_removeAccents x,
    removeAccents_eq_self_iff, hlength, removeAccents_stripInvisible x,
    removeAccents_filter_isLabelChar x⟩

/-- In `Æ-É` with a soft hyphen before the dash, the ligature is spelled with two letters, and both of
    them stay plain. -/
theorem removeAccents_laws_ligature :
    let x : Text := "Æ\u00AD-É"
    CodePoint.ofChar 'E' ∈ x.removeAccents ∧ (CodePoint.ofChar 'E').isAccented = false ∧
    (x ++ " ß").removeAccents = "AE\u00AD-E s" ∧
    x.removeAccents.length = 5 ∧ x.removeAccents.stripInvisible = "AE-E" ∧
    x.removeAccents ≠ x := by
  intro x
  obtain ⟨happend, hplain, _, hself, _, hstrip, _⟩ := removeAccents_laws x " ß"
  have hmem : CodePoint.ofChar 'E' ∈ x.removeAccents := by decide +kernel
  have hstripped : x.stripInvisible.removeAccents = "AE-E" := by decide +kernel
  refine ⟨hmem, hplain _ hmem, ?_, by decide +kernel, hstrip ▸ hstripped, ?_⟩
  · rw [happend]
    decide +kernel
  · rw [Ne, hself]
    decide +kernel

end Text

end SchemaNaming
