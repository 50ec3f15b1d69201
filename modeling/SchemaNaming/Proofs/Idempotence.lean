import SchemaNaming.Proofs.IdentifierCore

namespace SchemaNaming

/-!
# Normal forms of normal forms

The prefix comes in after the accents are removed and before the text is cleaned, so a normal form
may hold accents of the prefix, or begin with a character of it that asks for the prefix again.  If
the core of the prefix does neither, a normal form is its own normal form, and otherwise the core
itself is a normal form that is not.

* `StablePrefix` — the prefixes whose core is empty, or starts plainly and has no accents;
* `Text.normalForm_normalForm` — under a stable prefix normal forms are kept;
* `stablePrefix_of_normalForm_core` — a prefix that keeps its own core is stable;
* `normalFormsKept_iff_stablePrefix` — the prefixes that keep normal forms are the stable ones.
-/

/-- Every name that is given as a normal form is its own normal form, as long as `p` is the
    prefix. -/
def NormalFormsKept (p : Text) : Prop :=
  ∀ (raw : RawValue) (name : Text), raw.normalize p = .ok name →
    (RawValue.text name).normalize p = .ok name

/-- The core of the prefix is empty, or it starts plainly and has no accents. -/
def StablePrefix (p : Text) : Prop :=
  p.core = [] ∨ p.core.startsPlain = true ∧ ∀ c ∈ p.core, c.isAccented = false

instance (p : Text) : Decidable (StablePrefix p) :=
  inferInstanceAs (Decidable (_ ∨ _))

namespace Text

variable {t p : Text}

/-! ### What normal forms start with, and what they hold -/

/-- A plain start is an identifier character, so it is kept. -/
theorem startsPlain_identifierChars (h : t.startsPlain = true) :
    t.identifierChars.startsPlain = true := by
  cases t with
  | nil => exact Bool.noConfusion h
  | cons c t =>
    have hstart : c.isIdentifierStart = true := CodePoint.isIdentifierStart_of_isPlainStart h
    rw [identifierChars_cons, if_pos (CodePoint.isIdentifierChar_of_isIdentifierStart hstart)]
    exact h

/-- Behind a core that starts plainly, every normal form starts plainly. -/
theorem startsPlain_normalForm (hp : p.core.startsPlain = true) (t : Text) :
    (t.normalForm p).startsPlain = true := by
  cases hstart : t.removeAccents.startsPlain with
  | true =>
    rw [normalForm_of_startsPlain p hstart]
    exact startsPlain_identifierChars hstart
  | false =>
    have hne : p.core ≠ [] := by
      intro hnil
      rw [hnil] at hp
      exact Bool.noConfusion hp
    rw [normalForm_of_not_startsPlain p hstart, if_neg hne]
    exact startsPlain_append hp _

/-- All accents of a normal form come from the core of the prefix. -/
theorem isAccented_of_mem_normalForm (hp : ∀ c ∈ p.core, c.isAccented = false) (t : Text) :
    ∀ c ∈ t.normalForm p, c.isAccented = false := by
  have hplain := isAccented_of_mem_removeAccents t
  have hchars : ∀ c ∈ t.removeAccents.identifierChars, c.isAccented = false := by
    intro c hc
    exact hplain c (mem_identifierChars.mp hc).1
  have hcore : ∀ c ∈ t.removeAccents.core, c.isAccented = false := by
    intro c hc
    exact hchars c (mem_identifierChars_of_mem_core hc)
  cases hstart : t.removeAccents.startsPlain with
  | true =>
    rw [normalForm_of_startsPlain p hstart]
    exact hchars
  | false =>
    rw [normalForm_of_not_startsPlain p hstart]
    split
    · exact hcore
    · exact List.forall_mem_append.mpr ⟨hp, hchars⟩

/-! ### Normal forms that are kept -/

/-- Without a core in the prefix, an identifier without accents is its own normal form however it
    starts. -/
theorem normalForm_eq_self_of_core_eq_nil (hp : p.core = []) (hid : t.isIdentifier true = true)
    (hplain : t.removeAccents = t) : t.normalForm p = t := by
  cases hstart : t.startsPlain with
  | true => exact normalForm_eq_self p hid hstart hplain
  | false =>
    rw [← hplain] at hstart
    rw [normalForm_of_not_startsPlain p hstart, if_pos hp, hplain, ← cleaned_eq_core,
      cleaned_eq_self hid]

/-- Under a stable prefix, a normal form is its own normal form. -/
theorem normalForm_normalForm (hp : StablePrefix p) (hne : t.normalForm p ≠ []) :
    (t.normalForm p).normalForm p = t.normalForm p := by
  have hid : (t.normalForm p).isIdentifier true = true := isIdentifier_cleaned hne
  have hcore : ∀ c ∈ p.core, c.isAccented = false := by
    rcases hp with hnil | ⟨_, hplain⟩
    · rw [hnil]
      exact fun c hc => nomatch hc
    · exact hplain
  have hplain : (t.normalForm p).removeAccents = t.normalForm p :=
    removeAccents_eq_self_iff.mpr (isAccented_of_mem_normalForm hcore t)
  rcases hp with hnil | ⟨hstart, _⟩
  · exact normalForm_eq_self_of_core_eq_nil hnil hid hplain
  · exact normalForm_eq_self p hid (startsPlain_normalForm hstart t) hplain

/-! ### Prefixes that are not stable -/

/-- The core of the prefix is the normal form of the empty text. -/
theorem normalForm_nil (p : Text) : normalForm [] p = p.core := by
  rw [normalForm_of_not_startsPlain p rfl]
  simp

end Text

/-- A prefix that keeps its own core is stable: otherwise the accents of the core would be removed,
    or the prefix would be put in front of it again. -/
theorem stablePrefix_of_normalForm_core {p : Text} (h : p.core.normalForm p = p.core) :
    StablePrefix p := by
  by_cases hnil : p.core = []
  · exact Or.inl hnil
  · right
    have hchars : p.core.removeAccents.identifierChars = p.core.removeAccents :=
      Text.identifierChars_eq_self
        (Text.isIdentifierChar_of_mem_removeAccents (Text.isIdentifierChar_of_mem_core p))
    cases hstart : p.core.removeAccents.startsPlain with
    | true =>
      -- nothing but the accents could have been changed
      have hplain : p.core.removeAccents = p.core := by
        rwa [Text.normalForm_of_startsPlain p hstart, hchars] at h
      rw [hplain] at hstart
      exact ⟨hstart, Text.removeAccents_eq_self_iff.mp hplain⟩
    | false =>
      -- the core would stand twice in its normal form
      rw [Text.normalForm_of_not_startsPlain p hstart, if_neg hnil, hchars,
        List.append_right_eq_self, Text.removeAccents_eq_nil_iff] at h
      exact absurd h hnil

/-- **Normal forms that are kept.**  All names that are given as normal forms are their own normal
    forms exactly under the stable prefixes.  So it is under `a`, under the empty prefix and under
    `9`.  An accented prefix is spelled plainly by the second pass, and one in another script is
    added a second time. -/
theorem normalFormsKept_iff_stablePrefix :
    (∀ p : Text, NormalFormsKept p ↔ StablePrefix p) ∧
    (NormalFormsKept "a" ∧ NormalFormsKept "" ∧ NormalFormsKept "9") ∧
    (¬ NormalFormsKept "É" ∧
      (RawValue.text "1").normalize "É" = .ok "É1" ∧
      (RawValue.text "É1").normalize "É" = .ok "E1") ∧
    (¬ NormalFormsKept "я" ∧
      (RawValue.text "1").normalize "я" = .ok "я1" ∧
      (RawValue.text "я1").normalize "я" = .ok "яя1") := by
  have hiff : ∀ p : Text, NormalFormsKept p ↔ StablePrefix p := by
    intro p
    constructor
    · intro h
      by_cases hnil : p.core = []
      · exact Or.inl hnil
      · -- the core is the normal form of the empty text, and has to be kept
        have hempty : (RawValue.text []).normalize p = .ok p.core :=
          (RawValue.normalize_eq_ok_iff _ p _).mpr ⟨Text.normalForm_nil p, hnil⟩
        have hkept := h _ _ hempty
        exact stablePrefix_of_normalForm_core
          ((RawValue.normalize_eq_ok_iff _ p _).mp hkept).1
    · intro hp raw name hname
      obtain ⟨rfl, hne⟩ := (RawValue.normalize_eq_ok_iff raw p name).mp hname
      exact (RawValue.normalize_eq_ok_iff _ p _).mpr ⟨Text.normalForm_normalForm hp hne, hne⟩
  refine ⟨hiff, ⟨?_, ?_, ?_⟩, ⟨?_, rfl, rfl⟩, ⟨?_, rfl, rfl⟩⟩
  · exact (hiff "a").mpr (by decide +kernel)
  · exact (hiff "").mpr (by decide +kernel)
  · exact (hiff "9").mpr (by decide +kernel)
  · rw [hiff]
    decide +kernel
  · rw [hiff]
    decide +kernel

/-- Under the prefix `a` the name `a1st`, which `1st` gets, is kept. -/
theorem normalFormsKept_first :
    (RawValue.text "1st").normalize "a" = .ok "a1st" ∧
    (RawValue.text "a1st").normalize "a" = .ok "a1st" := by
  have hstable : StablePrefix "a" := by decide +kernel
  have hname : (RawValue.text "1st").normalize "a" = .ok "a1st" := rfl
  exact ⟨hname, (normalFormsKept_iff_stablePrefix.1 "a").mpr hstable _ _ hname⟩

end SchemaNaming
