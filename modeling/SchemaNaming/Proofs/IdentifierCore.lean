import SchemaNaming.Proofs.NormalForm

namespace SchemaNaming

/-!
# The core of a text

Cleaning a text takes several passes, one of which looks for the first start of a label.  What they
leave can be told in one sentence: the identifier characters in their order, without the digits
that lead them.  So a normal form is put together from what the prefix and the text have of such
characters, and nothing else that a label may hold gets lost.

* `Text.identifierChars`, `Text.core` — what may stay of a text, and what may stay in front;
* `Text.cleaned_eq_core` — cleaning leaves the core;
* `Text.normalForm_of_startsPlain`, `Text.normalForm_of_not_startsPlain` — normal forms without
  the passes.
-/

namespace Text

/-- The identifier characters of a text, in their order. -/
def identifierChars (t : Text) : Text := t.filter CodePoint.isIdentifierChar

/-- The identifier characters of a text, without the digits that lead them. -/
def core (t : Text) : Text := t.identifierChars.dropWhile CodePoint.isAsciiDigit

/-! ### Identifier characters -/

@[simp] theorem identifierChars_nil : identifierChars [] = [] := rfl

@[simp] theorem core_nil : core [] = [] := rfl

@[simp] theorem identifierChars_append (t u : Text) :
    (t ++ u).identifierChars = t.identifierChars ++ u.identifierChars :=
  List.filter_append t u

/-- The first character is dropped unless it is an identifier character. -/
theorem identifierChars_cons (c : CodePoint) (t : Text) : identifierChars (c :: t) =
    if c.isIdentifierChar then c :: t.identifierChars else t.identifierChars :=
  List.filter_cons

/-- The identifier characters of a text are those of its characters that are some. -/
theorem mem_identifierChars {c : CodePoint} {t : Text} :
    c ∈ t.identifierChars ↔ c ∈ t ∧ c.isIdentifierChar = true :=
  List.mem_filter

/-- The core of a text is part of its identifier characters. -/
theorem mem_identifierChars_of_mem_core {c : CodePoint} {t : Text} (h : c ∈ t.core) :
    c ∈ t.identifierChars :=
  (List.dropWhile_sublist _).subset h

/-- The core of a text is made of identifier characters. -/
theorem isIdentifierChar_of_mem_core (t : Text) : ∀ c ∈ t.core, c.isIdentifierChar = true := by
  intro c hc
  exact (mem_identifierChars.mp (mem_identifierChars_of_mem_core hc)).2

/-- A text of identifier characters loses nothing. -/
theorem identifierChars_eq_self {t : Text} (h : ∀ c ∈ t, c.isIdentifierChar = true) :
    t.identifierChars = t :=
  List.filter_eq_self.mpr h

/-- Of what cleaning drops everywhere, the identifier characters are left. -/
theorem filter_isLabelChar_stripInvisible (t : Text) :
    t.stripInvisible.filter CodePoint.isLabelChar = t.identifierChars :=
  List.filter_filter

/-- The core begins where an identifier may begin. -/
theorem core_cons (c : CodePoint) (t : Text) :
    core (c :: t) = if c.isIdentifierStart then c :: t.identifierChars else t.core := by
  by_cases hchar : c.isIdentifierChar
  · rw [core, identifierChars_cons, if_pos hchar]
    cases hdigit : c.isAsciiDigit with
    | false =>
      have hstart := CodePoint.isIdentifierStart_iff_not_isAsciiDigit.mpr ⟨hchar, hdigit⟩
      rw [if_pos hstart, List.dropWhile_cons_of_neg (by simp [hdigit])]
    | true =>
      have hstart : ¬ c.isIdentifierStart = true := by
        rw [CodePoint.isIdentifierStart_iff_not_isAsciiDigit, hdigit]
        exact fun h => nomatch h.2
      rw [if_neg hstart, List.dropWhile_cons_of_pos hdigit]
      rfl
  · have hstart : ¬ c.isIdentifierStart = true :=
      fun h => hchar (CodePoint.isIdentifierChar_of_isIdentifierStart h)
    rw [core, identifierChars_cons, if_neg hchar, if_neg hstart]
    rfl

/-- What cleaning leaves begins at the first character that may start a name. -/
theorem cleaned_cons (c : CodePoint) (t : Text) :
    cleaned (c :: t) = if c.isIdentifierStart then c :: t.identifierChars else t.cleaned := by
  cases hvisible : c.isInvisible with
  | true =>
    have hstrip : stripInvisible (c :: t) = t.stripInvisible :=
      List.filter_cons_of_neg (by simp [hvisible])
    rw [cleaned, hstrip, CodePoint.isIdentifierStart, hvisible]
    simp [cleaned]
  | false =>
    have hstrip : stripInvisible (c :: t) = c :: t.stripInvisible :=
      List.filter_cons_of_pos (by simp [hvisible])
    rw [cleaned, hstrip, CodePoint.isIdentifierStart, hvisible]
    cases hstart : c.isLabelStart with
    | true =>
      have hchar := CodePoint.isLabelChar_of_isLabelStart hstart
      simp [hstart, hchar, filter_isLabelChar_stripInvisible]
    | false => simp [hstart, cleaned]

/-- **Cleaning leaves the core.**  The passes that clean a text drop nothing but the characters that
    no identifier holds, and the digits in front. -/
theorem cleaned_eq_core (t : Text) : t.cleaned = t.core := by
  induction t with
  | nil => rfl
  | cons c t ih => rw [cleaned_cons, core_cons, ih]

/-- A text that starts plainly keeps all its identifier characters. -/
theorem core_of_startsPlain {t : Text} (h : t.startsPlain = true) :
    t.core = t.identifierChars := by
  cases t with
  | nil => rfl
  | cons c t =>
    have hstart : c.isIdentifierStart = true := CodePoint.isIdentifierStart_of_isPlainStart h
    have hchar := CodePoint.isIdentifierChar_of_isIdentifierStart hstart
    rw [core_cons, if_pos hstart, identifierChars_cons, if_pos hchar]

/-- A plain start stays one, whatever follows. -/
theorem startsPlain_append {t : Text} (h : t.startsPlain = true) (u : Text) :
    (t ++ u).startsPlain = true := by
  cases t with
  | nil => exact Bool.noConfusion h
  | cons c t => exact h

/-- Behind a text that has a core, all identifier characters are kept. -/
theorem core_append (t u : Text) :
    (t ++ u).core = if t.core = [] then u.core else t.core ++ u.identifierChars := by
  rw [core, identifierChars_append, List.dropWhile_append]
  simp only [List.isEmpty_iff]
  rfl

/-! ### Normal forms -/

/-- Only a small letter is changed by capitalizing, and a text that starts with one starts plainly. -/
theorem capitalize_of_not_startsPlain {t : Text} (h : t.startsPlain = false) :
    t.capitalize = t := by
  cases t with
  | nil => rfl
  | cons c t =>
    have hstart : c.isPlainStart = false := h
    have hlower : ¬ c.isAsciiLower = true := by
      intro hlower
      rw [Bool.eq_false_iff, Ne, CodePoint.isPlainStart_iff] at hstart
      rw [CodePoint.isAsciiLower_iff] at hlower
      omega
    rw [capitalize, CodePoint.toAsciiUpper, if_neg hlower]

/-- **Normal forms of plain starts.**  A text that is led by a letter or an underscore, once its
    accents are removed, keeps its identifier characters, and takes no prefix. -/
theorem normalForm_of_startsPlain {t : Text} (p : Text)
    (h : t.removeAccents.startsPlain = true) :
    t.normalForm p = t.removeAccents.identifierChars := by
  rw [normalForm, led, if_pos h, cleaned_eq_core, core_of_startsPlain h]

/-- **Normal forms of other starts.**  The core of the prefix comes before the identifier
    characters; without one in the prefix, the core of the text is left. -/
theorem normalForm_of_not_startsPlain {t : Text} (p : Text)
    (h : t.removeAccents.startsPlain = false) :
    t.normalForm p =
      if p.core = [] then t.removeAccents.core else p.core ++ t.removeAccents.identifierChars := by
  have hneg : ¬ t.removeAccents.startsPlain = true := by rw [h]; exact Bool.false_ne_true
  rw [normalForm, led, if_neg hneg, capitalize_of_not_startsPlain h, cleaned_eq_core, core_append]

end Text

end SchemaNaming
