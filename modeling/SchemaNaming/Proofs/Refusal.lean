import SchemaNaming.Proofs.ClassName
import SchemaNaming.Proofs.IdentifierCore

namespace SchemaNaming

/-!
# When names are refused

A name is refused when neither the prefix nor the value has a character that an identifier may start
with, and for no other reason.  Removing accents, capitalizing and cleaning take the last such
character away from no text, and bring none into a text that has none.  The refusal carries the
value as it was given; only that of a type carries a text, which is the text of the value without
the mark of an array.

* `Text.HasStart` — an identifier may start with one of the characters;
* `Text.normalForm_eq_nil_iff` — when nothing is left of a text;
* `Settings.RefusesExactly` — an answer is refused when nothing is left, and says of what;
* `Settings.EventuallyFree` — the answers about taken names let the walk of a class end;
* `Settings.RefusesWithoutStart` — how each way to give a name refuses a value;
* `refused_iff_no_start` — all ways to give a name refuse in this case alone.
-/

namespace Text

/-- An identifier may start with one of the characters. -/
def HasStart (t : Text) : Prop := ∃ c ∈ t, c.isIdentifierStart = true

instance (t : Text) : Decidable t.HasStart :=
  inferInstanceAs (Decidable (∃ c ∈ t, c.isIdentifierStart = true))

/-! ### Texts of which nothing is left -/

@[simp] theorem hasStart_nil : ¬ HasStart [] := by simp [HasStart]

@[simp] theorem hasStart_cons (c : CodePoint) (t : Text) :
    HasStart (c :: t) ↔ c.isIdentifierStart = true ∨ t.HasStart := by
  simp [HasStart]

@[simp] theorem hasStart_append (t u : Text) : HasStart (t ++ u) ↔ t.HasStart ∨ u.HasStart := by
  simp [HasStart, or_and_right, exists_or]

/-- The core of a text starts where an identifier may start, and is empty if there is no such place.
    -/
theorem core_eq_nil_iff (t : Text) : t.core = [] ↔ ¬ t.HasStart := by
  induction t with
  | nil => simp
  | cons c t ih =>
    rw [core_cons, hasStart_cons]
    by_cases hc : c.isIdentifierStart = true
    · simp [hc]
    · rw [if_neg hc, ih]
      simp [hc]

/-- An accented letter may start an identifier, and its plain spelling is made of letters. -/
theorem hasStart_plain (c : CodePoint) : HasStart c.plain ↔ c.isIdentifierStart = true := by
  cases h : c.isAccented with
  | false =>
    rw [CodePoint.plain_of_not_isAccented h]
    simp
  | true =>
    obtain ⟨⟨hext, hvisible⟩, _⟩ :=
      accentTable_entry _ (CodePoint.mem_accentTable_of_isAccented h)
    have hstart : c.isIdentifierStart = true := CodePoint.isIdentifierStart_iff.mpr
      ⟨CodePoint.isLabelStart_iff.mpr (Or.inr hext), hvisible⟩
    obtain ⟨d, hd⟩ := List.exists_mem_of_ne_nil _ c.plain_ne_nil
    have hletter := CodePoint.isPlainStart_of_mem_plain h d hd
    have hplain : HasStart c.plain :=
      ⟨d, hd, CodePoint.isIdentifierStart_of_isPlainStart hletter⟩
    simp [hstart, hplain]

/-- To remove accents neither brings in a start nor takes the last one away. -/
@[simp] theorem hasStart_removeAccents (t : Text) : t.removeAccents.HasStart ↔ t.HasStart := by
  induction t with
  | nil => exact Iff.rfl
  | cons c t ih => rw [removeAccents_cons, hasStart_append, hasStart_plain, ih, hasStart_cons]

/-- A text that starts plainly has a start. -/
theorem hasStart_of_startsPlain {t : Text} (h : t.startsPlain = true) : t.HasStart := by
  cases t with
  | nil => exact Bool.noConfusion h
  | cons c t => exact ⟨c, List.mem_cons_self, CodePoint.isIdentifierStart_of_isPlainStart h⟩

/-- The prefix is left out only if the text has a start without it. -/
theorem hasStart_led (t p : Text) : (t.led p).HasStart ↔ p.HasStart ∨ t.HasStart := by
  unfold led
  cases h : t.startsPlain with
  | true => simp [hasStart_of_startsPlain h]
  | false =>
    rw [if_neg Bool.false_ne_true, capitalize_of_not_startsPlain h, hasStart_append]

/-- **Texts of which nothing is left.**  The normal form is empty exactly if neither the prefix nor
    the text has a character that an identifier may start with. -/
theorem normalForm_eq_nil_iff (t p : Text) :
    t.normalForm p = [] ↔ ¬ p.HasStart ∧ ¬ t.HasStart := by
  rw [normalForm, cleaned_eq_core, core_eq_nil_iff, hasStart_led, hasStart_removeAccents, not_or]

/-! ### Built-in types -/

/-- There is a letter in the name of every built-in type. -/
theorem builtinTypes_letter : ∀ e ∈ builtinTypes, ∃ c ∈ e.1, c.isKeywordChar = true := by
  decide +kernel

/-- A text that is looked up as a built-in type has a start. -/
theorem hasStart_of_builtinType? {t b : Text} (h : t.builtinType? = some b) : t.HasStart := by
  obtain ⟨c, hc, hletter⟩ := builtinTypes_letter _ (mem_builtinTypes_of_builtinType? h)
  obtain ⟨d, hd, rfl⟩ := List.mem_map.mp hc
  exact ⟨d, hd, CodePoint.isIdentifierStart_of_kelvinLower hletter⟩

end Text

/-- A value has a normal form as soon as there is such a character in it or in the prefix. -/
theorem RawValue.exists_normalize_iff {raw : RawValue} {p : Text} :
    (∃ name, raw.normalize p = .ok name) ↔ p.HasStart ∨ raw.toText.HasStart := by
  have hne : raw.toText.normalForm p ≠ [] ↔ p.HasStart ∨ raw.toText.HasStart := by
    rw [Ne, Text.normalForm_eq_nil_iff]
    grind
  simp [RawValue.normalize_eq_ok_iff, hne]

/-! ### Refusals -/

namespace Settings

variable (s : Settings) (raw : RawValue)

/-- The answer is a refusal exactly if neither the prefix nor the value has a character that an
    identifier may start with, and the refusal carries `culprit`. -/
def RefusesExactly {α : Type} (culprit : RawValue) (answer : Except Refusal α) : Prop :=
  ∀ r, answer = .error r ↔
    (¬ s.namePrefix.HasStart ∧ ¬ raw.toText.HasStart) ∧ r = .emptyIdentifier culprit

/-- Some candidate for the class is neither a keyword nor found taken after the questions before it,
    so that the walk comes to an end. -/
def EventuallyFree (scope : Option Text) (taken : List Text → Text → Bool) : Prop :=
  ∀ base, raw.normalize s.namePrefix = .ok base →
    ∃ m, ¬ (s.classWalk base scope ⟨some taken, 0⟩).Passes m

variable {s raw}

/-- A normal form is refused for want of a start, and the refusal carries the value. -/
theorem refusesExactly_normalize : s.RefusesExactly raw raw (raw.normalize s.namePrefix) := by
  intro r
  rw [RawValue.normalize_eq_error_iff, Text.normalForm_eq_nil_iff]

/-- What is made of the normal form afterwards refuses nothing. -/
theorem refusesExactly_map {α β : Type} {culprit : RawValue} {answer : Except Refusal α}
    (h : s.RefusesExactly raw culprit answer) (f : α → β) :
    s.RefusesExactly raw culprit (answer.map f) := by
  intro r
  rw [map_eq_error_iff, h r]

theorem refusesExactly_attributeName : s.RefusesExactly raw raw (s.attributeName raw) := by
  rw [attributeName_eq_map]
  exact refusesExactly_map refusesExactly_normalize _

theorem refusesExactly_keywordLed (kind : Text) :
    s.RefusesExactly raw raw (s.keywordLed kind raw) := by
  rw [keywordLed_eq_map]
  exact refusesExactly_map refusesExactly_normalize _

/-! ### Classes -/

/-- A class is refused for want of an identifier only, if the walk for it ends in reach. -/
theorem refusesExactly_className {scope : Option Text} {o : Occupancy}
    (hends : ∀ base, raw.normalize s.namePrefix = .ok base →
      ∃ m < o.reach, ¬ (s.classWalk base scope o).Passes m) :
    s.RefusesExactly raw raw (s.className raw scope o) := by
  intro r
  rw [← refusesExactly_normalize r]
  cases hbase : raw.normalize s.namePrefix with
  | error e =>
    rw [className_of_normalize_error scope o hbase]
    simp only [Except.error.injEq]
  | ok base =>
    obtain ⟨m, hm, hstop⟩ := hends base hbase
    obtain ⟨i, hi, hstops⟩ := Walk.exists_stopsAt_of_not_passes _ hstop
    rw [className_of_stopsAt hbase (by omega) hstops]
    exact ⟨nofun, nofun⟩

/-- As long as no name is taken, the third candidate is free at the latest. -/
theorem refusesExactly_className_free (scope : Option Text) :
    s.RefusesExactly raw raw (s.className raw scope .free) := by
  apply refusesExactly_className
  intro base _
  refine ⟨2, by decide, ?_⟩
  rintro (hkeyword | htaken)
  · have hno := not_isKeyword_candidate base s.nameSuffix (Nat.le_refl 2)
    exact Bool.noConfusion (hno.symm.trans hkeyword)
  · exact Bool.noConfusion htaken

/-- If the answers let the walk end, a reach that is long enough finds the end. -/
theorem exists_refusesExactly_className {scope : Option Text} {taken : List Text → Text → Bool}
    (hfree : s.EventuallyFree raw scope taken) :
    ∃ bound, ∀ size, bound ≤ size →
      s.RefusesExactly raw raw (s.className raw scope ⟨some taken, size⟩) := by
  cases hbase : raw.normalize s.namePrefix with
  | error e =>
    refine ⟨0, fun size _ => refusesExactly_className fun base hok => ?_⟩
    exact nomatch hbase.symm.trans hok
  | ok base =>
    obtain ⟨m, hstop⟩ := hfree base hbase
    refine ⟨m, fun size hsize => refusesExactly_className fun base' hok => ?_⟩
    obtain rfl : base = base' := Except.ok.inj (hbase.symm.trans hok)
    have hreach : m < Occupancy.reach ⟨some taken, size⟩ := by
      show m < size + 3
      omega
    exact ⟨m, hreach, hstop⟩

/-! ### Types -/

/-- The mark of an array holds no start, so the element is refused with the array. -/
theorem refusesExactly_typeName_of_array {element : Text}
    (h : raw.toText = element ++ arrayMark) :
    s.RefusesExactly raw (.text element) (s.typeName raw) := by
  have hmark : ¬ arrayMark.HasStart := by decide
  rw [s.typeName_of_array h]
  intro r
  rw [map_eq_error_iff, refusesExactly_normalize r, h, Text.hasStart_append]
  simp only [hmark, or_false]
  rfl

/-- A type that is no array is refused with the text of the value, and never if it is built in. -/
theorem refusesExactly_typeName_of_not_array (harray : ¬ arrayMark <:+ raw.toText) :
    s.RefusesExactly raw (.text raw.toText) (s.typeName raw) := by
  cases hb : raw.toText.builtinType? with
  | some b =>
    intro r
    rw [s.typeName_of_builtin harray hb]
    exact ⟨nofun, fun h => absurd (Text.hasStart_of_builtinType? hb) h.1.2⟩
  | none =>
    have htext : s.RefusesExactly (.text raw.toText) (.text raw.toText)
        ((RawValue.text raw.toText).normalize s.namePrefix) := refusesExactly_normalize
    rw [s.typeName_of_generated harray hb]
    exact refusesExactly_map htext _

/-- What every way to give a name refuses, and what the refusal carries. -/
structure RefusesWithoutStart (s : Settings) (raw : RawValue) : Prop where
  normalize : s.RefusesExactly raw raw (raw.normalize s.namePrefix)
  attributeName : s.RefusesExactly raw raw (s.attributeName raw)
  operationName : s.RefusesExactly raw raw (s.operationName raw)
  constantName : s.RefusesExactly raw raw (s.constantName raw)
  /-- A class that stays clear of keywords only. -/
  freeClassName : ∀ scope, s.RefusesExactly raw raw (s.className raw scope .free)
  /-- A class whose walk comes to an end, if the reach is long enough. -/
  className : ∀ scope taken, s.EventuallyFree raw scope taken →
    ∃ bound, ∀ size, bound ≤ size →
      s.RefusesExactly raw raw (s.className raw scope ⟨some taken, size⟩)
  arrayName : ∀ element, raw.toText = element ++ arrayMark →
    s.RefusesExactly raw (.text element) (s.typeName raw)
  typeName : ¬ arrayMark <:+ raw.toText →
    s.RefusesExactly raw (.text raw.toText) (s.typeName raw)

end Settings

/-- **When names are refused.**  Whichever way a name is given, it is refused exactly if neither the
    prefix nor the value has a character that an identifier may start with.  The refusal carries the
    value as it was given, and for a type the text without the mark of an array.  A class asks which
    names are taken, and this holds as soon as the answers let its walk end: then every reach from
    some length on is long enough. -/
theorem refused_iff_no_start (s : Settings) (raw : RawValue) : s.RefusesWithoutStart raw where
  normalize := Settings.refusesExactly_normalize
  attributeName := Settings.refusesExactly_attributeName
  operationName := Settings.refusesExactly_keywordLed _
  constantName := Settings.refusesExactly_keywordLed _
  freeClassName := Settings.refusesExactly_className_free
  className _ _ hfree := Settings.exists_refusesExactly_className hfree
  arrayName _ h := Settings.refusesExactly_typeName_of_array h
  typeName := Settings.refusesExactly_typeName_of_not_array

/-- Under the prefix `9` the number `-5` is refused as a number where a name is wanted, and as a
    text where a type is; the array `1[]` is refused as its element.  The class `foo` is not refused
    when the first name that is asked about is taken. -/
theorem refused_minus_five :
    let s : Settings := { namePrefix := "9" }
    s.attributeName (.int (-5)) = .error (.emptyIdentifier (.int (-5))) ∧
    (¬ arrayMark <:+ (RawValue.int (-5)).toText ∧
      s.typeName (.int (-5)) = .error (.emptyIdentifier (.text "-5"))) ∧
    ((RawValue.text "1[]").toText = "1" ++ arrayMark ∧
      s.typeName (.text "1[]") = .error (.emptyIdentifier (.text "1"))) ∧
    (s.EventuallyFree (.text "foo") none (Occupancy.first 1).taken ∧
      ∃ size, ∀ r,
        s.className (.text "foo") none ⟨some (Occupancy.first 1).taken, size⟩ ≠ .error r) := by
  intro s
  have hlead : ¬ s.namePrefix.HasStart := by decide +kernel
  have hfive : ¬ (RawValue.int (-5)).toText.HasStart := by decide +kernel
  have hone : ¬ (RawValue.text "1[]").toText.HasStart := by decide +kernel
  have hfoo : Text.HasStart "foo" := by decide +kernel
  have harray : ¬ arrayMark <:+ (RawValue.int (-5)).toText := by decide +kernel
  have helement : (RawValue.text "1[]").toText = "1" ++ arrayMark := rfl
  have hfree : s.EventuallyFree (.text "foo") none (Occupancy.first 1).taken := by
    intro base hbase
    cases hbase
    refine ⟨1, ?_⟩
    show ¬ (Text.isKeyword "fooCustom" = true ∨ _)
    rw [not_or]
    exact ⟨by decide +kernel, by decide +kernel⟩
  have hminus := refused_iff_no_start s (.int (-5))
  obtain ⟨bound, hbound⟩ := (refused_iff_no_start s (.text "foo")).className none _ hfree
  refine ⟨(hminus.attributeName _).mpr ⟨⟨hlead, hfive⟩, rfl⟩, ⟨harray, ?_⟩, ⟨helement, ?_⟩, hfree,
    bound, ?_⟩
  · exact (hminus.typeName harray _).mpr ⟨⟨hlead, hfive⟩, rfl⟩
  · exact ((refused_iff_no_start s (.text "1[]")).arrayName _ helement _).mpr ⟨⟨hlead, hone⟩, rfl⟩
  · intro r hr
    exact ((hbound bound (Nat.le_refl bound) r).mp hr).1.2 hfoo

end SchemaNaming
