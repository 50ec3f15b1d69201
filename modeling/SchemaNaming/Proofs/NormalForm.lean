import SchemaNaming.NormalForm
import SchemaNaming.Proofs.Accent

namespace SchemaNaming

/-!
# Normal forms are identifiers

Whatever the text and whatever the prefix, a normal form that is not empty is an identifier, which
may be a keyword.  An identifier that starts plainly and has no accents is its own normal form.

* `Text.isIdentifier_cleaned` — what is left after cleaning is an identifier;
* `RawValue.isIdentifier_of_normalize` — every name that is not refused is an identifier;
* `Text.normalForm_eq_self` — the names on which nothing is changed.
-/

namespace Text

variable {t : Text}

/-! ### Cleaning -/

/-- What cleaning leaves is an identifier, unless nothing is left. -/
theorem isIdentifier_cleaned (h : t.cleaned ≠ []) : t.cleaned.isIdentifier true = true := by
  have hvisible : ∀ c ∈ t.stripInvisible.dropWhile fun c => !c.isLabelStart,
      c.isInvisible = false := fun c hc =>
    ((mem_stripInvisible c t).mp ((List.dropWhile_sublist _).subset hc)).2
  unfold cleaned at h ⊢
  cases hdrop : t.stripInvisible.dropWhile fun c => !c.isLabelStart with
  | nil => exact absurd (by rw [hdrop]; rfl) h
  | cons c rest =>
    rw [hdrop] at hvisible
    -- the first character left starts a label, so the filter that follows keeps it in front
    have hstart : c.isLabelStart = true := by
      have hhead := List.head_dropWhile_not (fun c => !CodePoint.isLabelStart c)
        (l := t.stripInvisible) (by rw [hdrop]; exact List.cons_ne_nil c rest)
      simpa [hdrop] using hhead
    rw [List.filter_cons_of_pos (CodePoint.isLabelChar_of_isLabelStart hstart),
      isIdentifier_cons_iff]
    refine ⟨CodePoint.isIdentifierStart_iff.mpr ⟨hstart, hvisible c List.mem_cons_self⟩, ?_⟩
    intro d hd
    rw [List.mem_filter] at hd
    exact CodePoint.isIdentifierChar_iff.mpr ⟨hd.2, hvisible d (List.mem_cons_of_mem c hd.1)⟩

/-- Cleaning changes nothing on an identifier. -/
theorem cleaned_eq_self (h : t.isIdentifier true = true) : t.cleaned = t := by
  have hstrip : t.stripInvisible = t := by
    refine List.filter_eq_self.mpr fun c hc => ?_
    rw [(CodePoint.isIdentifierChar_iff.mp (isIdentifierChar_of_mem h c hc)).2, Bool.not_false]
  have hfilter : t.filter CodePoint.isLabelChar = t := List.filter_eq_self.mpr fun c hc =>
    (CodePoint.isIdentifierChar_iff.mp (isIdentifierChar_of_mem h c hc)).1
  cases t with
  | nil => rfl
  | cons c t =>
    have hstart := (CodePoint.isIdentifierStart_iff.mp ((isIdentifier_cons_iff c t).mp h).1).1
    rw [cleaned, hstrip, List.dropWhile_cons_of_neg (by simp [hstart]), hfilter]

/-! ### The normal form -/

/-- A plain identifier without accents is its own normal form, whatever the prefix. -/
theorem normalForm_eq_self (namePrefix : Text) (hid : t.isIdentifier true = true)
    (hstart : t.startsPlain = true) (hplain : t.removeAccents = t) :
    t.normalForm namePrefix = t := by
  rw [normalForm, hplain, led, if_pos hstart, cleaned_eq_self hid]

end Text

namespace RawValue

/-- A name that is not refused is an identifier, and may be a keyword. -/
theorem isIdentifier_of_normalize {raw : RawValue} {namePrefix name : Text}
    (h : raw.normalize namePrefix = .ok name) : name.isIdentifier true = true := by
  obtain ⟨rfl, hne⟩ := (normalize_eq_ok_iff raw namePrefix name).mp h
  exact Text.isIdentifier_cleaned hne

/-- A plain identifier in ASCII is kept as it is. -/
theorem normalize_text_of_ascii {t : Text} (namePrefix : Text) (hid : t.isIdentifier true = true)
    (hstart : t.startsPlain = true) (hascii : ∀ c ∈ t, c.isExtended = false) :
    (text t).normalize namePrefix = .ok t := by
  have hplain : t.removeAccents = t := Text.removeAccents_eq_self_iff.mpr fun c hc =>
    CodePoint.isAccented_of_not_isExtended (hascii c hc)
  rw [normalize_eq_ok_iff]
  exact ⟨Text.normalForm_eq_self namePrefix hid hstart hplain, Text.isIdentifier_ne_nil hid⟩

end RawValue

end SchemaNaming
