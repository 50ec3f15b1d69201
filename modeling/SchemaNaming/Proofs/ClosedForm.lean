import SchemaNaming.Proofs.Idempotence
import SchemaNaming.Proofs.Refusal

namespace SchemaNaming

/-!
# Normal forms in closed form

The passes of the normal form can be told at once: it is the identifier characters of the plain
spelling, led by the core of the prefix where the text does not start plainly, or without the digits
in front where there is no such core.  So whatever a label may hold is kept, in its order and its
case, and what is put behind a text is found behind its normal form.

* `Text.closedForm` — the normal form without the passes;
* `Text.normalForm_append` — what becomes of the text behind another one;
* `normalize_closed_form` — values are given the closed form of their text;
* `normalize_eq_self_iff` — the texts on which nothing is changed.
-/

namespace Text

variable {t p : Text}

/-! ### The closed form -/

/-- The identifier characters of the plain spelling, with the core of the prefix before them if the
    spelling does not start plainly, and without leading digits if there is no core. -/
def closedForm (t p : Text) : Text :=
  if t.removeAccents.startsPlain then t.removeAccents.identifierChars
  else if p.core = [] then t.removeAccents.core
  else p.core ++ t.removeAccents.identifierChars

/-- The passes of the normal form leave what the closed form says. -/
theorem normalForm_eq_closedForm (t p : Text) : t.normalForm p = t.closedForm p := by
  unfold closedForm
  cases h : t.removeAccents.startsPlain with
  | true => simp [normalForm_of_startsPlain p h]
  | false => simp [normalForm_of_not_startsPlain p h]

/-! ### Texts behind one another -/

/-- How a text starts is not changed from behind. -/
theorem startsPlain_append_of_ne_nil (ht : t ≠ []) (u : Text) :
    (t ++ u).startsPlain = t.startsPlain := by
  cases t with
  | nil => exact absurd rfl ht
  | cons c t => rfl

/-- **Texts behind one another.**  A text that is not refused decides what comes in front of its
    normal form, and of a text behind it the identifier characters are kept. -/
theorem normalForm_append (ht : t ≠ []) (hne : t.normalForm p ≠ []) (u : Text) :
    (t ++ u).normalForm p = t.normalForm p ++ u.removeAccents.identifierChars := by
  have hstart : (t ++ u).removeAccents.startsPlain = t.removeAccents.startsPlain := by
    rw [removeAccents_append]
    exact startsPlain_append_of_ne_nil (mt removeAccents_eq_nil_iff.mp ht) _
  rw [normalForm_eq_closedForm] at hne
  rw [normalForm_eq_closedForm, normalForm_eq_closedForm]
  unfold closedForm at hne ⊢
  rw [hstart]
  by_cases hplain : t.removeAccents.startsPlain = true
  · simp [hplain]
  · by_cases hcore : p.core = []
    · rw [if_neg hplain, if_pos hcore] at hne
      rw [if_neg hplain, if_pos hcore, if_neg hplain, if_pos hcore, removeAccents_append]
      -- the core of the text is not empty, so what follows has no digits in front
      rw [core_append, if_neg hne]
    · simp [hplain, hcore]

/-! ### Texts that are kept -/

/-- A prefix makes an identifier longer, and no other pass makes up for that. -/
theorem core_eq_nil_of_normalForm_eq_self (hid : t.isIdentifier true = true)
    (hstart : t.removeAccents.startsPlain = false) (h : t.normalForm p = t) : p.core = [] := by
  apply Decidable.byContradiction
  intro hne
  have hchars : t.removeAccents.identifierChars = t.removeAccents :=
    identifierChars_eq_self (isIdentifierChar_of_mem_removeAccents (isIdentifierChar_of_mem hid))
  rw [normalForm_of_not_startsPlain p hstart, if_neg hne, hchars] at h
  have hlength := congrArg List.length h
  have hpos := List.length_pos_iff.mpr hne
  have hle := (length_removeAccents_bounds t).1
  rw [List.length_append] at hlength
  omega

/-- An identifier that is kept has no accents: its own are removed, and the prefix brings in none. -/
theorem isAccented_of_normalForm_eq_self (hid : t.isIdentifier true = true)
    (h : t.normalForm p = t) : ∀ c ∈ t, c.isAccented = false := by
  intro c hc
  rw [← h] at hc
  cases hstart : t.removeAccents.startsPlain with
  | true =>
    rw [normalForm_of_startsPlain p hstart] at hc
    exact isAccented_of_mem_removeAccents t c (mem_identifierChars.mp hc).1
  | false =>
    have hcore := core_eq_nil_of_normalForm_eq_self hid hstart h
    exact isAccented_of_mem_normalForm (by simp [hcore]) t c hc

end Text

/-! ### Values -/

/-- **Normal forms in closed form.**  A value is given the closed form of its text, unless that is
    empty.  Capitalizing never has an effect on the way, and of what is put behind an accepted text
    the identifier characters of its plain spelling are kept. -/
theorem normalize_closed_form (raw : RawValue) (p : Text) :
    (raw.normalize p =
      if raw.toText.closedForm p = [] then .error (.emptyIdentifier raw)
      else .ok (raw.toText.closedForm p)) ∧
    (raw.toText.removeAccents.startsPlain = false →
      raw.toText.removeAccents.capitalize = raw.toText.removeAccents) ∧
    ∀ x y name : Text, x ≠ [] → (RawValue.text x).normalize p = .ok name →
      (RawValue.text (x ++ y)).normalize p = .ok (name ++ y.removeAccents.identifierChars) := by
  refine ⟨?_, Text.capitalize_of_not_startsPlain, fun x y name hx hname => ?_⟩
  · rw [← Text.normalForm_eq_closedForm]
    rfl
  · obtain ⟨rfl, hne⟩ := (RawValue.normalize_eq_ok_iff _ p name).mp hname
    rw [RawValue.normalize_eq_ok_iff]
    refine ⟨Text.normalForm_append hx hne y, ?_⟩
    exact List.append_ne_nil_of_left_ne_nil hne _

/-- Of the prefix `9é-` the letter alone leads `1`, and it keeps its accent, while `été` behind the
    blank is spelled plainly. -/
theorem normalize_closed_form_accented :
    let p : Text := "9é-"
    (("1" : Text) ≠ [] ∧ (RawValue.text "1").normalize p = .ok "é1" ∧
      (RawValue.text ("1" ++ " été")).normalize p =
        .ok ("é1" ++ (Text.removeAccents " été").identifierChars)) ∧
    Text.closedForm "1 été" p = "é1ete" ∧
    (RawValue.text "1 été").normalize p = .ok "é1ete" ∧
    (Text.removeAccents "1 été").startsPlain = false ∧
    (Text.removeAccents "1 été").capitalize = Text.removeAccents "1 été" := by
  intro p
  obtain ⟨hvalue, hcapital, happend⟩ := normalize_closed_form (.text "1 été") p
  have hone : (RawValue.text "1").normalize p = .ok "é1" := rfl
  have hstart : (Text.removeAccents "1 été").startsPlain = false := by decide +kernel
  have hform : (RawValue.text "1 été").toText.closedForm p = "é1ete" := by decide +kernel
  have hne : ("1" : Text) ≠ [] := by decide
  refine ⟨⟨hne, hone, happend "1" " été" _ hne hone⟩, hform, ?_, hstart, hcapital hstart⟩
  rw [hvalue, hform]
  rfl

/-- **Texts that are kept.**  A text is its own normal form exactly if it is an identifier, keywords
    allowed, has no accents, and either starts plainly or could not be led, since the prefix has no
    character that an identifier may start with. -/
theorem normalize_eq_self_iff (x p : Text) : (RawValue.text x).normalize p = .ok x ↔
    (RawValue.text x).isIdentifier true = true ∧ (∀ c ∈ x, c.isAccented = false) ∧
      (x.startsPlain = true ∨ ¬ p.HasStart) := by
  constructor
  · intro h
    have hid : x.isIdentifier true = true := RawValue.isIdentifier_of_normalize h
    have hself : x.normalForm p = x := ((RawValue.normalize_eq_ok_iff _ p x).mp h).1
    have hplain := Text.isAccented_of_normalForm_eq_self hid hself
    refine ⟨hid, hplain, ?_⟩
    cases hstart : x.startsPlain with
    | true => exact Or.inl rfl
    | false =>
      right
      rw [← Text.core_eq_nil_iff]
      refine Text.core_eq_nil_of_normalForm_eq_self hid ?_ hself
      rw [Text.removeAccents_eq_self_iff.mpr hplain, hstart]
  · rintro ⟨hid, hplain, hlead⟩
    have hspelled := Text.removeAccents_eq_self_iff.mpr hplain
    rw [RawValue.normalize_eq_ok_iff]
    refine ⟨?_, Text.isIdentifier_ne_nil hid⟩
    rcases hlead with hstart | hno
    · exact Text.normalForm_eq_self p hid hstart hspelled
    · rw [← Text.core_eq_nil_iff] at hno
      exact Text.normalForm_eq_self_of_core_eq_nil hno hid hspelled

/-- A Cyrillic name is kept under the prefix `9`, which leads nothing, but not under `a`; an accent is
    kept under neither. -/
theorem normalize_eq_self_iff_cyrillic :
    (RawValue.text "имя").normalize "9" = .ok "имя" ∧
    (RawValue.text "имя").normalize "a" ≠ .ok "имя" ∧
    (RawValue.text "é").normalize "9" ≠ .ok "é" := by
  refine ⟨(normalize_eq_self_iff "имя" "9").mpr ?_, fun h => ?_, fun h => ?_⟩
  · decide +kernel
  · exact absurd ((normalize_eq_self_iff "имя" "a").mp h).2.2 (by decide +kernel)
  · exact absurd ((normalize_eq_self_iff "é" "9").mp h).2.1 (by decide +kernel)

end SchemaNaming
