import SchemaNaming.Proofs.Keyword
import SchemaNaming.Proofs.Naming

namespace SchemaNaming

/-!
# Lookups in lower case

Keywords and built-in types are looked up under the full lower case of a text, which minds all of
Unicode and may even lengthen the text.  But the words of both tables are ASCII, so what is found is
told by a fold of single characters: ASCII letters in lower case, and `k` for the Kelvin sign.  Every
other character beyond ASCII keeps a text out of the tables.

* `TableWord` — the words of the tables;
* `lower_eq_iff_of_tableWord` — which texts are found under a word;
* `Text.Listed`, `Text.listed_iff` — the texts that are found at all, and their folds;
* `Text.FoundByFold`, `Text.FoundByAsciiFold` — the lookups do not tell a text from its fold;
* `lookups_by_fold` — keywords, names of types and hints by the fold.
-/

/-- A keyword, or a type of a schema that is built in. -/
def TableWord (k : Text) : Prop := k ∈ keywords ∨ k ∈ builtinTypes.map Prod.fst

instance (k : Text) : Decidable (TableWord k) := inferInstanceAs (Decidable (_ ∨ _))

/-- The text is found in one of the tables. -/
def Text.Listed (t : Text) : Prop := t.isKeyword = true ∨ t.builtinType?.isSome = true

/-! ### Words of the tables -/

section Words

variable {t k : Text}

/-- All words of the tables are ASCII texts. -/
theorem isExtended_of_mem_tableWord (hk : TableWord k) : ∀ c ∈ k, c.isExtended = false := by
  rcases hk with hkeyword | htype
  · exact isExtended_of_mem_keyword hkeyword
  · obtain ⟨e, he, rfl⟩ := List.mem_map.mp htype
    exact (builtinTypes_entry e he).1

/-- The texts that are found under a word are those whose fold is the word. -/
theorem lower_eq_iff_of_tableWord (hk : TableWord k) : t.lower = k ↔ t.kelvinFold = k :=
  Text.lower_eq_iff_kelvinFold_eq (isExtended_of_mem_tableWord hk)

/-- Without a Kelvin sign they differ from the word in the case of ASCII letters only. -/
theorem lower_eq_iff_asciiFold_of_tableWord (hk : TableWord k) (ht : CodePoint.kelvinSign ∉ t) :
    t.lower = k ↔ t.asciiFold = k := by
  rw [lower_eq_iff_of_tableWord hk, Text.kelvinFold_eq_asciiFold ht]

end Words

/-! ### Texts in the tables -/

namespace Text

variable {t : Text}

/-- A text is found exactly if its fold is a word of the tables. -/
theorem listed_iff (t : Text) : t.Listed ↔ TableWord t.kelvinFold := by
  apply or_congr t.isKeyword_iff
  rw [Option.isSome_iff_exists]
  constructor
  · rintro ⟨b, hb⟩
    exact List.mem_map.mpr ⟨_, mem_builtinTypes_of_builtinType? hb, rfl⟩
  · intro hword
    rw [builtinType?_eq_lookup_kelvinFold, ← Option.isSome_iff_exists, List.lookup_isSome_iff]
    obtain ⟨e, he, hfold⟩ := List.mem_map.mp hword
    exact ⟨e, he, by simp [hfold]⟩

/-- A text that is found holds no character beyond ASCII but the Kelvin sign. -/
theorem ascii_or_kelvinSign_of_listed (h : t.Listed) :
    ∀ c ∈ t, c.isExtended = false ∨ c = CodePoint.kelvinSign := by
  intro c hc
  have hword := (listed_iff t).mp h
  have hfold : c.kelvinLower ∈ t.kelvinFold := List.mem_map_of_mem hc
  exact CodePoint.isExtended_kelvinLower.mp (isExtended_of_mem_tableWord hword _ hfold)

end Text

/-! ### Names and hints -/

/-- The name of a type that is no array, by the fold of its text. -/
theorem Settings.typeName_by_fold (s : Settings) {raw : RawValue}
    (harray : ¬ arrayMark <:+ raw.toText) :
    s.typeName raw =
      match builtinTypes.lookup raw.toText.kelvinFold with
      | some b => .ok { name := b }
      | none => s.generatedTypeName raw.toText := by
  rw [← Text.builtinType?_eq_lookup_kelvinFold]
  cases hb : raw.toText.builtinType? with
  | some b => exact s.typeName_of_builtin harray hb
  | none => rw [s.typeName_of_generated harray hb, ← s.generatedTypeName_eq_map]

/-- The hint for a type that is no array, by the fold of its text. -/
theorem Text.typeHint?_by_fold {t : Text} (harray : ¬ arrayMark <:+ t) :
    t.typeHint? =
      if t = dateTimeType ∨ builtinTypes.lookup t.kelvinFold = some dateTimeType then
        some dateTimeType
      else none := by
  rw [← List.isSuffixOf_iff_suffix] at harray
  rw [typeHint?, if_neg harray, builtinType?_eq_lookup_kelvinFold]

namespace Text

/-- Without a Kelvin sign it is the case of ASCII letters that is ignored when a text is looked up, and
    nothing else. -/
structure FoundByAsciiFold (t : Text) : Prop where
  isKeyword : t.isKeyword = true ↔ t.asciiFold ∈ keywords
  builtinType : t.builtinType? = builtinTypes.lookup t.asciiFold
  word : ∀ k, TableWord k → (t.lower = k ↔ t.asciiFold = k)

/-- A text is looked up by its fold, wherever it is looked up. -/
structure FoundByFold (t : Text) : Prop where
  isKeyword : t.isKeyword = true ↔ t.kelvinFold ∈ keywords
  builtinType : t.builtinType? = builtinTypes.lookup t.kelvinFold
  /-- The name of a type that has the text. -/
  typeName : ∀ (s : Settings) (raw : RawValue), raw.toText = t → ¬ arrayMark <:+ t →
    s.typeName raw =
      match builtinTypes.lookup t.kelvinFold with
      | some b => .ok { name := b }
      | none => s.generatedTypeName t
  typeHint : ¬ arrayMark <:+ t → (RawValue.text t).typeHint? =
    if t = dateTimeType ∨ builtinTypes.lookup t.kelvinFold = some dateTimeType then
      some dateTimeType
    else none
  /-- Under a word of the tables the texts are found that have this fold. -/
  word : ∀ k, TableWord k → (t.lower = k ↔ t.kelvinFold = k)
  withoutKelvinSign : CodePoint.kelvinSign ∉ t → t.FoundByAsciiFold
  /-- A text that is found holds no other character beyond ASCII. -/
  chars : t.Listed → ∀ c ∈ t, c.isExtended = false ∨ c = CodePoint.kelvinSign

/-- Without a Kelvin sign the fold is that of ASCII. -/
theorem foundByAsciiFold {t : Text} (ht : CodePoint.kelvinSign ∉ t) : t.FoundByAsciiFold where
  isKeyword := by rw [t.isKeyword_iff, kelvinFold_eq_asciiFold ht]
  builtinType := by rw [t.builtinType?_eq_lookup_kelvinFold, kelvinFold_eq_asciiFold ht]
  word _ hk := lower_eq_iff_asciiFold_of_tableWord hk ht

end Text

/-- **Lookups by the fold.**  A text is a keyword exactly if its fold is listed as one, and the names
    of types and the hints for them are those of the entry for the fold.  Under each word of the
    tables the texts are found that have this fold; without a Kelvin sign in the text it is the case
    of ASCII letters that is ignored, and nothing else.  A text with any other character beyond ASCII
    is neither a keyword nor built in. -/
theorem lookups_by_fold (t : Text) : t.FoundByFold where
  isKeyword := t.isKeyword_iff
  builtinType := t.builtinType?_eq_lookup_kelvinFold
  typeName s raw hraw harray := by
    subst hraw
    exact s.typeName_by_fold harray
  typeHint := Text.typeHint?_by_fold
  word _ hk := lower_eq_iff_of_tableWord hk
  withoutKelvinSign := Text.foundByAsciiFold
  chars := Text.ascii_or_kelvinSign_of_listed

/-- A token is spelled with the Kelvin sign and is a string nonetheless, while a long s makes another
    word of a string.  The keyword `BreaK` is told by the case of its letters alone. -/
theorem lookups_by_fold_token :
    let token : Text := "To\u212AEN"
    (¬ arrayMark <:+ token ∧ ({} : Settings).typeName (.text token) = .ok { name := "string" } ∧
      (RawValue.text token).typeHint? = none) ∧
    (TableWord "token" ∧ token.lower = "token" ∧ token.Listed) ∧
    (CodePoint.kelvinSign ∉ ("BreaK" : Text) ∧ Text.isKeyword "BreaK" = true) ∧
    ¬ Text.Listed "ſtring" := by
  intro token
  have hfound := lookups_by_fold token
  have harray : ¬ arrayMark <:+ token := by decide
  have hfold : builtinTypes.lookup token.kelvinFold = some (Text.ofString "string") := by
    decide +kernel
  have htoken : TableWord "token" := by decide +kernel
  have hbreak : CodePoint.kelvinSign ∉ ("BreaK" : Text) := by decide
  refine ⟨⟨harray, ?_, ?_⟩, ⟨htoken, ?_, ?_⟩, ⟨hbreak, ?_⟩, ?_⟩
  · rw [hfound.typeName {} (.text token) rfl harray, hfold]
  · rw [hfound.typeHint harray, hfold]
    decide +kernel
  · exact (hfound.word "token" htoken).mpr (by decide +kernel)
  · exact (Text.listed_iff token).mpr (by decide +kernel)
  · exact ((lookups_by_fold "BreaK").withoutKelvinSign hbreak).isKeyword.mpr (by decide +kernel)
  · intro hlisted
    have honly := (lookups_by_fold "ſtring").chars hlisted (.ofChar 'ſ') (by decide +kernel)
    exact absurd honly (by decide +kernel)

end SchemaNaming
