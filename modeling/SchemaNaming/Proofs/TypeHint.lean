import SchemaNaming.Proofs.TypeName

namespace SchemaNaming

/-!
# Hints for types and for their names

A hint can be asked for with the value of a schema or with the name that the type was given.  Arrays
and built-in types have the same hint either way.  For all other types the name has a hint if its
normal form is spelled `datetime`, and the value if it is the type of dates itself, which is no
type of a schema.  So the hints differ when one of these is the case without the other.

* `Text.builtinType?_eq_dateTimeType_iff` — the type that dates come from;
* `typeHint?_suffixedName` — the hint for the name of a type that is neither an array nor built in;
* `exists_normalForm_dateTimeType` — the normal form of the type of dates is no keyword;
* `typeHint?_typeName_ne_iff` — the types whose names have another hint.
-/

/-- The name of the date type in a schema, folded. -/
def dateTimeName : Text := "datetime"

namespace Text

variable {t : Text}

/-! ### Dates -/

/-- Dates are found by the case of ASCII letters alone, as there is no `k` in their name. -/
theorem kelvinFold_eq_dateTimeName_iff :
    t.kelvinFold = dateTimeName ↔ t.asciiFold = dateTimeName := by
  constructor
  · intro h
    have hletter : CodePoint.ofChar 'k' ∉ t.kelvinFold := by
      rw [h]
      decide
    rwa [← kelvinFold_eq_asciiFold_of_not_mem hletter]
  · intro h
    rw [← kelvinFold_asciiFold, h]
    decide

/-- One entry of the table leads to the type of dates. -/
theorem builtinTypes_dateTimeType : builtinTypes.lookup dateTimeName = some dateTimeType ∧
    ∀ e ∈ builtinTypes, e.2 = dateTimeType → e.1 = dateTimeName := by
  decide +kernel

/-- A text is looked up as the type of dates exactly if it is spelled like the dates of a schema. -/
theorem builtinType?_eq_dateTimeType_iff :
    t.builtinType? = some dateTimeType ↔ t.asciiFold = dateTimeName := by
  rw [← kelvinFold_eq_dateTimeName_iff]
  constructor
  · intro h
    exact builtinTypes_dateTimeType.2 _ (mem_builtinTypes_of_builtinType? h) rfl
  · intro h
    rw [builtinType?_eq_lookup_kelvinFold, h]
    exact builtinTypes_dateTimeType.1

/-! ### Hints -/

/-- Every array has the hint of arrays. -/
theorem typeHint?_of_array (h : arrayMark <:+ t) : t.typeHint? = some (ofString "array") := by
  rw [typeHint?, if_pos (List.isSuffixOf_iff_suffix.mpr h)]

/-- What is no array has a hint only if it is a date. -/
theorem typeHint?_of_not_array (h : ¬ arrayMark <:+ t) : t.typeHint? =
    if t = dateTimeType ∨ t.asciiFold = dateTimeName then some dateTimeType else none := by
  rw [← List.isSuffixOf_iff_suffix] at h
  simp only [typeHint?, if_neg h, builtinType?_eq_dateTimeType_iff]

/-- A text of identifier characters has a hint only if it is spelled like the dates of a schema. -/
theorem typeHint?_of_isIdentifierChar (h : ∀ c ∈ t, c.isIdentifierChar = true) :
    t.typeHint? = if t.asciiFold = dateTimeName then some dateTimeType else none := by
  have hne : t ≠ dateTimeType := by
    rintro rfl
    exact absurd (h (.ofChar '\\') (by decide)) (by decide)
  rw [typeHint?_of_not_array (not_isSuffix_arrayMark h)]
  simp only [hne, false_or]

/-- Of the types that are rendered, dates alone have a hint. -/
theorem typeHint?_of_mem_builtinNames : ∀ b ∈ builtinNames,
    b.typeHint? = if b = dateTimeType then some dateTimeType else none := by
  decide +kernel

/-- Of the types of a schema that become a rendered one, those of a date alone have a hint. -/
theorem typeHint?_of_builtinType? {b : Text} (harray : ¬ arrayMark <:+ t)
    (hb : t.builtinType? = some b) :
    t.typeHint? = if b = dateTimeType then some dateTimeType else none := by
  have hne : t ≠ dateTimeType := by
    rintro rfl
    have hnone : dateTimeType.builtinType? = none := by decide +kernel
    exact nomatch hnone.symm.trans hb
  have hiff : t.asciiFold = dateTimeName ↔ b = dateTimeType := by
    rw [← builtinType?_eq_dateTimeType_iff, hb, Option.some.injEq]
  rw [typeHint?_of_not_array harray]
  simp only [hne, false_or, hiff]

end Text

/-! ### Hints for names -/

/-- No keyword ends like the name of dates, and none begins it. -/
theorem keyword_dateTimeName : ∀ k ∈ keywords,
    ¬ dateTimeName <:+ k ∧ ¬ k <+: dateTimeName := by
  decide +kernel

section Names

variable {s : Settings} {x : Text}

/-- A keyword is not spelled like the dates of a schema. -/
theorem asciiFold_ne_dateTimeName {name : Text} (hk : name.isKeyword = true) :
    name.asciiFold ≠ dateTimeName := by
  rw [Ne, ← Text.kelvinFold_eq_dateTimeName_iff]
  intro heq
  exact (keyword_dateTimeName _ ((Text.isKeyword_iff name).mp hk)).1 (heq ▸ List.suffix_refl _)

/-- The suffix makes no date of a name, nor hides one. -/
theorem typeHint?_suffixedName (hs : ∀ c ∈ s.nameSuffix, c.isIdentifierChar = true) (t : Text)
    {name : Text} (hname : name.isIdentifier true = true) :
    (s.suffixedName t name).name.typeHint? =
      if name.asciiFold = dateTimeName then some dateTimeType else none := by
  have hchars := Text.isIdentifierChar_of_mem hname
  by_cases hk : name.isKeyword
  · rw [s.name_suffixedName_of_isKeyword t hk,
      Text.typeHint?_of_isIdentifierChar (List.forall_mem_append.mpr ⟨hchars, hs⟩)]
    have hnoSuffix : ¬ (name ++ s.nameSuffix).asciiFold = dateTimeName := by
      rw [← Text.kelvinFold_eq_dateTimeName_iff, Text.kelvinFold_append]
      intro heq
      have hmem := (Text.isKeyword_iff name).mp hk
      exact (keyword_dateTimeName _ hmem).2 (heq ▸ List.prefix_append _ _)
    rw [if_neg (asciiFold_ne_dateTimeName hk), if_neg hnoSuffix]
  · rw [s.name_suffixedName_of_not_isKeyword t hk, Text.typeHint?_of_isIdentifierChar hchars]

/-- The normal form of the type of dates ends in the name of dates, whatever the prefix. -/
theorem exists_normalForm_dateTimeType (p : Text) :
    ∃ front, dateTimeType.normalForm p = front ++ "DateTime" := by
  have hplain : dateTimeType.removeAccents = dateTimeType := by decide +kernel
  have hstart : dateTimeType.removeAccents.startsPlain = false := by decide +kernel
  have hchars : dateTimeType.identifierChars = "DateTime" := by decide +kernel
  have hcore : dateTimeType.core = "DateTime" := by decide +kernel
  rw [Text.normalForm_of_not_startsPlain p hstart, hplain, hchars, hcore]
  by_cases hp : p.core = []
  · exact ⟨[], by rw [if_pos hp, List.nil_append]⟩
  · exact ⟨p.core, by rw [if_neg hp]⟩

/-- The normal form of the rendered date is no keyword. -/
theorem not_isKeyword_normalForm_dateTimeType (p : Text) :
    (dateTimeType.normalForm p).isKeyword = false := by
  obtain ⟨front, hfront⟩ := exists_normalForm_dateTimeType p
  rw [Bool.eq_false_iff, Ne, Text.isKeyword_iff, hfront, Text.kelvinFold_append]
  intro hmem
  have hfold : Text.kelvinFold "DateTime" = dateTimeName := by decide +kernel
  rw [hfold] at hmem
  exact (keyword_dateTimeName _ hmem).1 (List.suffix_append _ _)

/-! ### Hints before and after naming -/

/-- The normal form of the text is spelled like the dates of a schema, but for the case of ASCII
    letters. -/
def NormalizesToDateTime (s : Settings) (t : Text) : Prop :=
  ∃ name, (RawValue.text t).normalize s.namePrefix = .ok name ∧ name.asciiFold = dateTimeName

variable {n : Named}

/-- The name of an array is an array. -/
theorem typeHint?_typeName_of_array (harray : arrayMark <:+ x)
    (hn : s.typeName (.text x) = .ok n) : n.name.typeHint? = x.typeHint? := by
  obtain ⟨element, helement⟩ := harray
  have hraw : (RawValue.text x).toText = element ++ arrayMark := helement.symm
  rw [s.typeName_of_array hraw, map_eq_ok_iff] at hn
  obtain ⟨base, _, rfl⟩ := hn
  rw [Text.typeHint?_of_array (List.suffix_append base arrayMark),
    Text.typeHint?_of_array ⟨element, helement⟩]

/-- A built-in type has the hint of the type that it becomes. -/
theorem typeHint?_typeName_of_builtin {b : Text} (harray : ¬ arrayMark <:+ x)
    (hb : x.builtinType? = some b) (hn : s.typeName (.text x) = .ok n) :
    n.name.typeHint? = x.typeHint? := by
  have hraw : ¬ arrayMark <:+ (RawValue.text x).toText := harray
  rw [s.typeName_of_builtin hraw hb] at hn
  cases hn
  rw [Text.typeHint?_of_mem_builtinNames b (Text.mem_builtinNames_of_builtinType? hb),
    Text.typeHint?_of_builtinType? harray hb]

/-- Any other type has a hint if it is the type of dates itself, and its name has one if its normal
    form is spelled like the dates of a schema. -/
theorem typeHint?_typeName_of_generated (hs : ∀ c ∈ s.nameSuffix, c.isIdentifierChar = true)
    (harray : ¬ arrayMark <:+ x) (hb : x.builtinType? = none)
    (hn : s.typeName (.text x) = .ok n) :
    ∃ name, (RawValue.text x).normalize s.namePrefix = .ok name ∧
      n.name.typeHint? = (if name.asciiFold = dateTimeName then some dateTimeType else none) ∧
      x.typeHint? = if x = dateTimeType then some dateTimeType else none := by
  have hraw : ¬ arrayMark <:+ (RawValue.text x).toText := harray
  have hnoDate : ¬ x.asciiFold = dateTimeName := by
    rw [← Text.builtinType?_eq_dateTimeType_iff, hb]
    exact nofun
  rw [s.typeName_of_generated hraw hb, map_eq_ok_iff] at hn
  obtain ⟨name, hname, rfl⟩ := hn
  refine ⟨name, hname, ?_, ?_⟩
  · exact typeHint?_suffixedName hs _ (RawValue.isIdentifier_of_normalize hname)
  · rw [Text.typeHint?_of_not_array harray]
    simp only [hnoDate, or_false]

/-- A type whose normal form is a keyword has no hint, and neither has its name. -/
theorem typeHint?_typeName_of_isKeyword (hs : ∀ c ∈ s.nameSuffix, c.isIdentifierChar = true)
    (harray : ¬ arrayMark <:+ x) (hb : x.builtinType? = none)
    (hn : s.typeName (.text x) = .ok n) {name : Text}
    (hname : (RawValue.text x).normalize s.namePrefix = .ok name) (hk : name.isKeyword = true) :
    n.name.typeHint? = x.typeHint? := by
  obtain ⟨name', hname', hnameHint, hxHint⟩ := typeHint?_typeName_of_generated hs harray hb hn
  obtain rfl : name = name' := Except.ok.inj (hname.symm.trans hname')
  have hx : x ≠ dateTimeType := by
    rintro rfl
    have hnormal : dateTimeType.normalForm s.namePrefix = name :=
      ((RawValue.normalize_eq_ok_iff _ _ _).mp hname).1
    have hno := not_isKeyword_normalForm_dateTimeType s.namePrefix
    rw [hnormal, hk] at hno
    exact Bool.noConfusion hno
  rw [hnameHint, hxHint, if_neg hx, if_neg (asciiFold_ne_dateTimeName hk)]

/-- **Hints for values and for names.**  As long as the suffix is made of identifier characters, the
    name of a type has another hint than its value exactly if the type is neither an array nor built
    in, and either is the type of dates or has a normal form that is spelled like the dates of a
    schema, but not both.  Types that are called by keywords are never among them. -/
theorem typeHint?_typeName_ne_iff (s : Settings) (x : Text) (n : Named)
    (hs : ∀ c ∈ s.nameSuffix, c.isIdentifierChar = true) (hn : s.typeName (.text x) = .ok n) :
    ((RawValue.text n.name).typeHint? ≠ (RawValue.text x).typeHint? ↔
      ¬ arrayMark <:+ x ∧ x.builtinType? = none ∧
        ((x = dateTimeType ∧ ¬ NormalizesToDateTime s x) ∨
          (x ≠ dateTimeType ∧ NormalizesToDateTime s x))) ∧
    ∀ name, (RawValue.text x).normalize s.namePrefix = .ok name → name.isKeyword = true →
      (RawValue.text n.name).typeHint? = (RawValue.text x).typeHint? := by
  show (n.name.typeHint? ≠ x.typeHint? ↔ _) ∧ ∀ _, _ → _ → n.name.typeHint? = x.typeHint?
  by_cases harray : arrayMark <:+ x
  · have heq := typeHint?_typeName_of_array harray hn
    exact ⟨⟨fun hne => absurd heq hne, fun h => absurd harray h.1⟩, fun _ _ _ => heq⟩
  · cases hb : x.builtinType? with
    | some b =>
      have heq := typeHint?_typeName_of_builtin harray hb hn
      exact ⟨⟨fun hne => absurd heq hne, fun h => nomatch h.2.1⟩, fun _ _ _ => heq⟩
    | none =>
      refine ⟨?_, fun _ hname hk => typeHint?_typeName_of_isKeyword hs harray hb hn hname hk⟩
      obtain ⟨name, hname, hnameHint, hxHint⟩ := typeHint?_typeName_of_generated hs harray hb hn
      have hdate : NormalizesToDateTime s x ↔ name.asciiFold = dateTimeName := by
        constructor
        · rintro ⟨name', hname', hfold⟩
          obtain rfl : name = name' := Except.ok.inj (hname.symm.trans hname')
          exact hfold
        · exact fun hfold => ⟨name, hname, hfold⟩
      simp only [hnameHint, hxHint, hdate, harray, not_false_eq_true, true_and]
      by_cases hx : x = dateTimeType <;> by_cases hfold : name.asciiFold = dateTimeName <;>
        simp [hx, hfold]

/-- The value `date-Time` has no hint, but its name `dateTime` has one. -/
theorem typeHint?_typeName_ne_date_Time :
    (∀ c ∈ ({} : Settings).nameSuffix, c.isIdentifierChar = true) ∧
    ∃ n, ({} : Settings).typeName (.text "date-Time") = .ok n ∧ n.name = "dateTime" ∧
      (RawValue.text n.name).typeHint? ≠ (RawValue.text "date-Time").typeHint? := by
  have hs : ∀ c ∈ ({} : Settings).nameSuffix, c.isIdentifierChar = true := by decide +kernel
  have hn : ({} : Settings).typeName (.text "date-Time") = .ok { name := "dateTime" } := rfl
  have harray : ¬ arrayMark <:+ ("date-Time" : Text) := by decide
  have hb : Text.builtinType? "date-Time" = none :=
    Text.builtinType?_eq_none_of_dash (by decide)
  have hne : ("date-Time" : Text) ≠ dateTimeType := by decide
  have hdate : NormalizesToDateTime {} "date-Time" := ⟨"dateTime", rfl, by decide⟩
  refine ⟨hs, _, hn, rfl, ?_⟩
  exact (typeHint?_typeName_ne_iff {} _ _ hs hn).1.mpr ⟨harray, hb, Or.inr ⟨hne, hdate⟩⟩

end Names

end SchemaNaming
