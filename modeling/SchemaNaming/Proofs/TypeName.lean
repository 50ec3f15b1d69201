import SchemaNaming.Proofs.IdentifierCore
import SchemaNaming.Proofs.Keyword
import SchemaNaming.Proofs.Naming

namespace SchemaNaming

/-!
# Forms of type names

A type is named as an array, as a built-in type or by an identifier of its own.  A keyword gets the
suffix once and is not looked at again, so it depends on the suffix alone whether these are all the
names that types can have.  Then no type of a schema is mistaken for a built-in one.

* `FreesKeywords`, `SafeSuffix` — the suffixes that make no keyword of a keyword, and those among
  them that keep identifiers;
* `Settings.HasTypeForm` — exactly one of the three forms;
* `hasTypeForm_of_typeName` — under a safe suffix the names of types have these forms;
* `typeName_dashed_keyword` — every keyword is the normal form of a type that is not built in;
* `hasTypeForm_iff_safeSuffix` — the suffixes that give these forms only are the safe ones.
-/

/-! ### Suffixes -/

/-- No keyword is another one, or the same, in front of the suffix. -/
def FreesKeywords (suffix : Text) : Prop := ∀ k ∈ keywords, k ++ suffix.asciiFold ∉ keywords

/-- The suffix is made of identifier characters, and makes no keyword of a keyword. -/
structure SafeSuffix (suffix : Text) : Prop where
  isIdentifierChar : ∀ c ∈ suffix, c.isIdentifierChar = true
  freesKeywords : FreesKeywords suffix

instance (suffix : Text) : Decidable (FreesKeywords suffix) :=
  inferInstanceAs (Decidable (∀ k ∈ keywords, k ++ suffix.asciiFold ∉ keywords))

instance (suffix : Text) : Decidable (SafeSuffix suffix) :=
  decidable_of_iff ((∀ c ∈ suffix, c.isIdentifierChar = true) ∧ FreesKeywords suffix)
    ⟨fun h => ⟨h.1, h.2⟩, fun h => ⟨h.1, h.2⟩⟩

/-- A suffix that ends no keyword makes no keyword of any text. -/
theorem freesKeywords_of_ends_none {suffix : Text}
    (h : ∀ k ∈ keywords, ¬ suffix.asciiFold <:+ k) : FreesKeywords suffix := by
  intro k _ hmem
  exact h _ hmem (List.suffix_append k suffix.asciiFold)

/-- The suffix that is set by default makes no keyword of a keyword. -/
theorem freesKeywords_custom : FreesKeywords "Custom" :=
  freesKeywords_of_ends_none (by decide +kernel)

/-- Without a suffix a keyword stays what it is. -/
theorem not_freesKeywords_nil : ¬ FreesKeywords [] := by
  intro h
  apply h "class" <;> decide +kernel

/-- A keyword with the suffix is a keyword again exactly if the suffix makes one of it. -/
theorem isKeyword_append_iff (suffix : Text) {name : Text} (hname : name.isKeyword = true) :
    (name ++ suffix).isKeyword = true ↔ name.kelvinFold ++ suffix.asciiFold ∈ keywords := by
  have hk : name.kelvinFold ∈ keywords := (Text.isKeyword_iff name).mp hname
  rw [Text.isKeyword_iff, Text.kelvinFold_append, append_kelvinFold_mem_keywords_iff hk suffix]

/-- A suffix that makes no keyword of the listed ones makes none of any other spelling of them. -/
theorem not_isKeyword_append {suffix name : Text} (h : FreesKeywords suffix)
    (hname : name.isKeyword = true) : (name ++ suffix).isKeyword = false := by
  rw [Bool.eq_false_iff, Ne, isKeyword_append_iff suffix hname]
  exact h _ ((Text.isKeyword_iff name).mp hname)

/-- Under a safe suffix an identifier stays one, and is no keyword any more. -/
theorem isIdentifier_suffixedName (s : Settings) (t : Text) {name : Text}
    (hs : SafeSuffix s.nameSuffix) (hname : name.isIdentifier true = true) :
    (s.suffixedName t name).name.isIdentifier = true := by
  rw [Text.isIdentifier_iff]
  by_cases hk : name.isKeyword
  · rw [s.name_suffixedName_of_isKeyword t hk]
    exact ⟨Text.isIdentifier_append hname hs.isIdentifierChar,
      not_isKeyword_append hs.freesKeywords hk⟩
  · rw [s.name_suffixedName_of_not_isKeyword t hk]
    exact ⟨hname, Bool.eq_false_iff.mpr hk⟩

/-! ### Forms -/

/-- Exactly one of three statements holds. -/
def ExactlyOne (a b c : Prop) : Prop := (a ∧ ¬ b ∧ ¬ c) ∨ (¬ a ∧ b ∧ ¬ c) ∨ (¬ a ∧ ¬ b ∧ c)

/-- The value ends in the array mark, and the name is the normal form of the rest with the mark
    behind it. -/
def Settings.NamesArray (s : Settings) (raw : RawValue) (name : Text) : Prop :=
  ∃ element base, raw.toText = element ++ arrayMark ∧
    (RawValue.text element).normalize s.namePrefix = .ok base ∧ name = base ++ arrayMark

/-- The value is no array, and the name is the built-in type for it. -/
def NamesBuiltin (raw : RawValue) (name : Text) : Prop :=
  ¬ arrayMark <:+ raw.toText ∧ raw.toText.builtinType? = some name

/-- The value is neither an array nor built in, and the name is an identifier and no keyword. -/
def NamesGenerated (raw : RawValue) (name : Text) : Prop :=
  ¬ arrayMark <:+ raw.toText ∧ raw.toText.builtinType? = none ∧ name.isIdentifier = true

/-- The name has exactly one of the three forms that names of types have. -/
def Settings.HasTypeForm (s : Settings) (raw : RawValue) (name : Text) : Prop :=
  ExactlyOne (s.NamesArray raw name) (NamesBuiltin raw name) (NamesGenerated raw name)

section Forms

variable {s : Settings} {raw : RawValue} {n : Named}

/-- A name of an array was given to an array. -/
theorem isSuffix_of_namesArray {name : Text} (h : s.NamesArray raw name) :
    arrayMark <:+ raw.toText := by
  obtain ⟨element, _, hraw, _⟩ := h
  exact ⟨element, hraw.symm⟩

/-- Under a safe suffix a type has a name of one of the forms. -/
theorem hasTypeForm_of_typeName (hs : SafeSuffix s.nameSuffix) (h : s.typeName raw = .ok n) :
    s.HasTypeForm raw n.name := by
  rcases s.typeName_cases h with
    ⟨element, base, helement, hbase, rfl⟩ | ⟨harray, b, hb, rfl⟩ | ⟨harray, hb, base, hbase, rfl⟩
  · -- the other forms need a value without the mark
    have harray : arrayMark <:+ raw.toText := ⟨element, helement.symm⟩
    exact Or.inl ⟨⟨element, base, helement, hbase, rfl⟩, fun hno => hno.1 harray,
      fun hno => hno.1 harray⟩
  · have hno : ¬ NamesGenerated raw b := fun hg => nomatch hb.symm.trans hg.2.1
    exact Or.inr (Or.inl ⟨fun ha => harray (isSuffix_of_namesArray ha), ⟨harray, hb⟩, hno⟩)
  · have hno : ¬ NamesBuiltin raw (s.suffixedName raw.toText base).name :=
      fun hg => nomatch hb.symm.trans hg.2
    have hid := isIdentifier_suffixedName s raw.toText hs
      (RawValue.isIdentifier_of_normalize hbase)
    exact Or.inr (Or.inr ⟨fun ha => harray (isSuffix_of_namesArray ha), hno, harray, hb, hid⟩)

/-- The rendered types are no identifiers: they are keywords, or hold a backslash.  Nor are they
    arrays. -/
theorem builtinNames_entry : ∀ b ∈ builtinNames,
    b.isIdentifier = false ∧ CodePoint.ofChar ']' ∉ b := by
  decide +kernel

/-- A name that has one of the forms is a rendered type only if the type is built in. -/
theorem mem_builtinNames_iff_of_hasTypeForm {name : Text} (h : s.HasTypeForm raw name) :
    name ∈ builtinNames ↔ NamesBuiltin raw name := by
  constructor
  · intro hmem
    obtain ⟨hid, hbracket⟩ := builtinNames_entry name hmem
    rcases h with ⟨⟨_, base, _, _, rfl⟩, _⟩ | ⟨_, hb, _⟩ | ⟨_, _, hg⟩
    · have hmark : CodePoint.ofChar ']' ∈ arrayMark := by decide
      exact absurd (List.mem_append_right base hmark) hbracket
    · exact hb
    · exact Bool.noConfusion (hid.symm.trans hg.2.2)
  · intro hb
    exact Text.mem_builtinNames_of_builtinType? hb.2

end Forms

/-- What is made of identifier characters is no array. -/
theorem not_isSuffix_arrayMark {t : Text} (h : ∀ c ∈ t, c.isIdentifierChar = true) :
    ¬ arrayMark <:+ t := by
  rintro ⟨front, rfl⟩
  have hmark := h (.ofChar ']') (List.mem_append_right front (by decide))
  exact absurd hmark (by decide)

/-! ### Types that are called like keywords -/

/-- The text with a dash behind it, which makes it the name of no array and of no built-in type. -/
def dashed (t : Text) : Text := t ++ [.ofChar '-']

/-- No text with a dash in it ends like an array. -/
theorem not_isSuffix_arrayMark_dashed (t : Text) : ¬ arrayMark <:+ dashed t := by
  rw [dashed, List.suffix_concat_iff]
  rintro (hnil | ⟨front, hmark, _⟩)
  · exact absurd hnil (by decide)
  · have hdash : CodePoint.ofChar '-' ∈ arrayMark := by
      rw [hmark]
      exact List.mem_append_right front List.mem_cons_self
    exact absurd hdash (by decide)

/-- No text with a dash in it is built in. -/
theorem builtinType?_dashed (t : Text) : (dashed t).builtinType? = none :=
  Text.builtinType?_eq_none_of_dash (List.mem_append_right t List.mem_cons_self)

/-- The normal form drops the dash behind a keyword. -/
theorem normalize_dashed_keyword {k : Text} (hk : k ∈ keywords) (namePrefix : Text) :
    (RawValue.text (dashed k)).normalize namePrefix = .ok k := by
  have hascii : ∀ c ∈ dashed k, c.isExtended = false := by
    rw [dashed, List.forall_mem_append]
    exact ⟨isExtended_of_mem_keyword hk, by decide⟩
  have hplain : (dashed k).removeAccents = dashed k := Text.removeAccents_eq_self_iff.mpr
    fun c hc => CodePoint.isAccented_of_not_isExtended (hascii c hc)
  have hstart : (dashed k).removeAccents.startsPlain = true := by
    rw [hplain]
    exact Text.startsPlain_append (startsPlain_keyword hk) _
  have hchars : k.identifierChars = k :=
    Text.identifierChars_eq_self (Text.isIdentifierChar_of_mem (isIdentifier_keyword hk))
  have hdash : Text.identifierChars [.ofChar '-'] = [] := by decide
  rw [RawValue.normalize_eq_ok_iff]
  refine ⟨?_, (keyword_spelling k hk).1⟩
  show (dashed k).normalForm namePrefix = k
  rw [Text.normalForm_of_startsPlain namePrefix hstart, hplain, dashed, Text.identifierChars_append,
    hchars, hdash, List.append_nil]

/-- **Keywords as types.**  Even a keyword that is the name of a built-in type is the normal form of
    a type that is not built in, and is named with the suffix then. -/
theorem typeName_dashed_keyword (s : Settings) {k : Text} (hk : k ∈ keywords) :
    ∃ n, s.typeName (.text (dashed k)) = .ok n ∧ n.name = k ++ s.nameSuffix := by
  have harray : ¬ arrayMark <:+ (RawValue.text (dashed k)).toText :=
    not_isSuffix_arrayMark_dashed k
  refine ⟨s.suffixedName (dashed k) k, ?_,
    s.name_suffixedName_of_isKeyword _ (Text.isKeyword_of_mem hk)⟩
  rw [s.typeName_of_generated harray (builtinType?_dashed k)]
  show Except.map _ ((RawValue.text (dashed k)).normalize s.namePrefix) = _
  rw [normalize_dashed_keyword hk]
  rfl

/-- A suffix under which all names of types have the three forms is safe. -/
theorem safeSuffix_of_hasTypeForm (s : Settings)
    (h : ∀ raw n, s.typeName raw = .ok n → s.HasTypeForm raw n.name) :
    SafeSuffix s.nameSuffix := by
  have hid : ∀ k ∈ keywords, (k ++ s.nameSuffix).isIdentifier = true := by
    intro k hk
    obtain ⟨n, hn, hname⟩ := typeName_dashed_keyword s hk
    rw [← hname]
    -- the type is no array and not built in, so the third form is left
    rcases h _ n hn with ⟨ha, _⟩ | ⟨_, hb, _⟩ | ⟨_, _, hg⟩
    · exact absurd (isSuffix_of_namesArray ha) (not_isSuffix_arrayMark_dashed k)
    · exact nomatch (builtinType?_dashed k).symm.trans hb.2
    · exact hg.2.2
  constructor
  · have hclass : ("class" : Text) ∈ keywords := by decide +kernel
    have hlegal := ((Text.isIdentifier_iff _).mp (hid "class" hclass)).1
    exact ((Text.isIdentifier_append_iff (keyword_spelling _ hclass).1).mp hlegal).2
  · intro k hk hmem
    -- with the suffix the keyword would be a keyword, and no identifier
    rw [← kelvinFold_keyword hk] at hmem
    have hkw := (isKeyword_append_iff s.nameSuffix (Text.isKeyword_of_mem hk)).mpr hmem
    exact Bool.noConfusion ((Text.isIdentifier_of_isKeyword hkw).symm.trans (hid k hk))

/-- **Names of types.**  Every name of a type has exactly one of the three forms if the suffix is
    safe, and only then.  Under a safe suffix a type is rendered as `int`, `float`, `string` or the
    type of dates if it is built in, and only then.  The suffix `Custom` is safe; the empty one leaves
    keywords as they are, `each` makes `foreach` of `for`, and `_once` makes `include_once` of
    `include`. -/
theorem hasTypeForm_iff_safeSuffix :
    (∀ suffix : Text, SafeSuffix suffix ↔
      ∀ (s : Settings) (raw : RawValue) (n : Named), s.nameSuffix = suffix →
        s.typeName raw = .ok n → s.HasTypeForm raw n.name) ∧
    (∀ (s : Settings) (raw : RawValue) (n : Named), SafeSuffix s.nameSuffix →
      s.typeName raw = .ok n → (n.name ∈ builtinNames ↔ NamesBuiltin raw n.name)) ∧
    SafeSuffix "Custom" ∧ ¬ SafeSuffix "" ∧ ¬ SafeSuffix "each" ∧ ¬ SafeSuffix "_once" := by
  refine ⟨fun suffix => ⟨?_, ?_⟩, ?_, ?_, ?_, ?_, ?_⟩
  · rintro hs s raw n rfl hn
    exact hasTypeForm_of_typeName hs hn
  · intro h
    exact safeSuffix_of_hasTypeForm { nameSuffix := suffix } fun raw n hn => h _ raw n rfl hn
  · intro s raw n hs hn
    exact mem_builtinNames_iff_of_hasTypeForm (hasTypeForm_of_typeName hs hn)
  · exact ⟨by decide +kernel, freesKeywords_custom⟩
  · exact fun h => not_freesKeywords_nil h.freesKeywords
  · exact fun h => h.freesKeywords "for" (by decide +kernel) (by decide +kernel)
  · exact fun h => h.freesKeywords "include" (by decide +kernel) (by decide +kernel)

/-- The normal form of `in-t` is a built-in type, but `in-t` is none, and is not rendered as one. -/
theorem hasTypeForm_dashed_int :
    SafeSuffix ({} : Settings).nameSuffix ∧
    ∃ n, ({} : Settings).typeName (.text "in-t") = .ok n ∧ n.name = "intCustom" ∧
      ({} : Settings).HasTypeForm (.text "in-t") n.name ∧ n.name ∉ builtinNames := by
  have hsafe : SafeSuffix ({} : Settings).nameSuffix := hasTypeForm_iff_safeSuffix.2.2.1
  have hn : ({} : Settings).typeName (.text "in-t") =
      .ok { name := "intCustom", rename := some ⟨"类型", "in-t", "intCustom"⟩ } := rfl
  refine ⟨hsafe, _, hn, rfl, ?_, ?_⟩
  · exact (hasTypeForm_iff_safeSuffix.1 _).mp hsafe {} _ _ rfl hn
  · intro hmem
    have hbuiltin := (hasTypeForm_iff_safeSuffix.2.1 {} _ _ hsafe hn).mp hmem
    have hnone : Text.builtinType? "in-t" = none :=
      Text.builtinType?_eq_none_of_dash (by decide)
    exact nomatch hnone.symm.trans hbuiltin.2

end SchemaNaming
