import SchemaNaming.Proofs.ClosedForm
import SchemaNaming.Proofs.Stability
import SchemaNaming.Proofs.TypeName

namespace SchemaNaming

/-!
# Types that are named again

The name of a type is looked up among the built-in types before it is normalized, so a name that was
given for a type may be taken for another type when it comes in as a value itself.  Arrays keep their
names, and so do `int`, `float` and `string`.  The type of dates does not, since it is no type of a
schema, and neither does a name that happens to be spelled like a type of a schema that is built in.

* `Settings.KeepsNames` — prefix and suffix do not stand in the way;
* `Settings.TypeKept` — a type that is called by the name keeps it;
* `typeKept_suffixedName_iff`, `not_typeKept_dateTimeType` — names that were given to types, again;
* `KeptAsListed` — a name is kept if it is not looked up as anything else, and only then;
* `typeName_kept_iff` — so it is with every name under such a prefix and suffix;
* `suffixed_keyword_not_kept` — a suffix may make a built-in type of a keyword.
-/

/-- Under the prefix normal forms are kept, and the suffix makes plain names, and no keywords, of
    keywords. -/
structure Settings.KeepsNames (s : Settings) : Prop where
  stablePrefix : StablePrefix s.namePrefix
  plainSuffix : PlainEnding s.nameSuffix
  freesKeywords : FreesKeywords s.nameSuffix

instance (s : Settings) : Decidable s.KeepsNames :=
  decidable_of_iff
    (StablePrefix s.namePrefix ∧ PlainEnding s.nameSuffix ∧ FreesKeywords s.nameSuffix)
    ⟨fun h => ⟨h.1, h.2.1, h.2.2⟩, fun h => ⟨h.1, h.2, h.3⟩⟩

/-- The type that is called by the name is given this name. -/
def Settings.TypeKept (s : Settings) (name : Text) : Prop :=
  ∃ n, s.typeName (.text name) = .ok n ∧ n.name = name

section TypeStability

variable {s : Settings} {raw : RawValue} {n : Named}

/-- A suffix that keeps names is safe. -/
theorem Settings.KeepsNames.safeSuffix (hs : s.KeepsNames) : SafeSuffix s.nameSuffix where
  isIdentifierChar := fun c hc => (hs.plainSuffix c hc).1
  freesKeywords := hs.freesKeywords

/-! ### Normal forms again -/

/-- Under a stable prefix a normal form is its own normal form. -/
theorem normalize_again {p name : Text} (hp : StablePrefix p) (h : raw.normalize p = .ok name) :
    (RawValue.text name).normalize p = .ok name := by
  obtain ⟨rfl, hne⟩ := (RawValue.normalize_eq_ok_iff raw p name).mp h
  exact (RawValue.normalize_eq_ok_iff _ p _).mpr ⟨Text.normalForm_normalForm hp hne, hne⟩

/-- Under a stable prefix a normal form with a plain ending behind it is its own normal form, too. -/
theorem normalize_append_plainEnding {p name ending : Text} (hp : StablePrefix p)
    (h : raw.normalize p = .ok name) (hending : PlainEnding ending) :
    (RawValue.text (name ++ ending)).normalize p = .ok (name ++ ending) := by
  obtain ⟨rfl, hne⟩ := (RawValue.normalize_eq_ok_iff raw p name).mp h
  have hkept := Text.normalForm_normalForm hp hne
  have hplain : ending.removeAccents = ending :=
    Text.removeAccents_eq_self_iff.mpr fun c hc => (hending c hc).2
  have hchars : ending.identifierChars = ending :=
    Text.identifierChars_eq_self fun c hc => (hending c hc).1
  rw [RawValue.normalize_eq_ok_iff]
  refine ⟨?_, List.append_ne_nil_of_left_ne_nil hne _⟩
  show Text.normalForm (_ ++ ending) p = _
  rw [Text.normalForm_append hne (by rwa [hkept]), hkept, hplain, hchars]

/-- The name that a type gets for its normal form is its own normal form. -/
theorem normalize_suffixedName (hs : s.KeepsNames) {base : Text} (t : Text)
    (h : raw.normalize s.namePrefix = .ok base) :
    (RawValue.text (s.suffixedName t base).name).normalize s.namePrefix =
      .ok (s.suffixedName t base).name := by
  by_cases hk : base.isKeyword
  · rw [s.name_suffixedName_of_isKeyword t hk]
    exact normalize_append_plainEnding hs.stablePrefix h hs.plainSuffix
  · rw [s.name_suffixedName_of_not_isKeyword t hk]
    exact normalize_again hs.stablePrefix h

/-! ### Names of types again -/

/-- The name of an array is kept, since its element is. -/
theorem typeKept_array (hs : s.KeepsNames) {base : Text}
    (h : raw.normalize s.namePrefix = .ok base) : s.TypeKept (base ++ arrayMark) := by
  have harray : (RawValue.text (base ++ arrayMark)).toText = base ++ arrayMark := rfl
  refine ⟨{ name := base ++ arrayMark }, ?_, rfl⟩
  rw [s.typeName_of_array harray, normalize_again hs.stablePrefix h]
  rfl

/-- A rendered type stands for itself in a schema, but for the type of dates. -/
theorem builtinType?_of_mem_builtinNames : ∀ b ∈ builtinNames,
    b.builtinType? = if b = dateTimeType then none else some b := by
  decide +kernel

/-- A name that is looked up as a built-in type is kept only if it is the type that it becomes. -/
theorem typeKept_iff_of_builtinType? {name b : Text} (harray : ¬ arrayMark <:+ name)
    (hb : name.builtinType? = some b) : s.TypeKept name ↔ b = name := by
  have hname : s.typeName (.text name) = .ok { name := b } := s.typeName_of_builtin harray hb
  constructor
  · rintro ⟨n, hn, rfl⟩
    rw [hname] at hn
    exact congrArg (·.name) (Except.ok.inj hn)
  · rintro rfl
    exact ⟨_, hname, rfl⟩

/-- The type of dates is not kept: what it is called as a value is an identifier. -/
theorem not_typeKept_dateTimeType (hs : s.KeepsNames) : ¬ s.TypeKept dateTimeType := by
  rintro ⟨n, hn, hname⟩
  have hmem : n.name ∈ builtinNames := by
    rw [hname]
    exact dateTimeType_mem_builtinNames
  have hbuiltin := (mem_builtinNames_iff_of_hasTypeForm
    (hasTypeForm_of_typeName hs.safeSuffix hn)).mp hmem
  have hnone := builtinType?_of_mem_builtinNames dateTimeType dateTimeType_mem_builtinNames
  rw [if_pos rfl] at hnone
  exact nomatch hnone.symm.trans hbuiltin.2

/-- All other rendered types are kept. -/
theorem typeKept_builtin_iff (hs : s.KeepsNames) {b : Text} (hb : b ∈ builtinNames) :
    s.TypeKept b ↔ b ≠ dateTimeType := by
  have hlookup := builtinType?_of_mem_builtinNames b hb
  by_cases hdate : b = dateTimeType
  · rw [hdate]
    exact iff_of_false (not_typeKept_dateTimeType hs) fun h => h rfl
  · rw [if_neg hdate] at hlookup
    have harray : ¬ arrayMark <:+ b := fun ⟨front, hfront⟩ =>
      (builtinNames_entry b hb).2 (hfront ▸ List.mem_append_right front (by decide))
    exact iff_of_true ((typeKept_iff_of_builtinType? harray hlookup).mpr rfl) hdate

/-- The name that was given to a type that is neither an array nor built in is kept unless it is
    looked up itself. -/
theorem typeKept_suffixedName_iff (hs : s.KeepsNames) {base : Text} (t : Text)
    (h : raw.normalize s.namePrefix = .ok base) :
    s.TypeKept (s.suffixedName t base).name ↔ (s.suffixedName t base).name.builtinType? = none := by
  have hid := isIdentifier_suffixedName s t hs.safeSuffix (RawValue.isIdentifier_of_normalize h)
  have hagain := normalize_suffixedName hs t h
  generalize (s.suffixedName t base).name = name at hid hagain ⊢
  obtain ⟨hlegal, hkeyword⟩ := (Text.isIdentifier_iff name).mp hid
  have harray := not_isSuffix_arrayMark (Text.isIdentifierChar_of_mem hlegal)
  cases hb : name.builtinType? with
  | some b =>
    -- the rendered types are no identifiers, so the name is none of them
    rw [typeKept_iff_of_builtinType? harray hb]
    refine ⟨?_, nofun⟩
    rintro rfl
    have hno := (builtinNames_entry b (Text.mem_builtinNames_of_builtinType? hb)).1
    exact Bool.noConfusion (hno.symm.trans hid)
  | none =>
    refine ⟨fun _ => rfl, fun _ => ⟨{ name }, ?_, rfl⟩⟩
    have hname : s.typeName (.text name) =
        ((RawValue.text name).normalize s.namePrefix).map (s.suffixedName name) :=
      s.typeName_of_generated harray hb
    rw [hname, hagain]
    show Except.ok (s.suffixedName name name) = _
    rw [Settings.suffixedName, if_neg (Bool.eq_false_iff.mp hkeyword)]

/-- Behind a suffix that ends no type of a schema, no name is looked up. -/
theorem builtinType?_append_eq_none {suffix : Text}
    (h : ∀ e ∈ builtinTypes, ¬ suffix.kelvinFold <:+ e.1) (t : Text) :
    (t ++ suffix).builtinType? = none := by
  rw [Option.eq_none_iff_forall_ne_some]
  intro b hb
  apply h _ (Text.mem_builtinTypes_of_builtinType? hb)
  rw [Text.kelvinFold_append]
  exact List.suffix_append _ _

/-- No type of a schema ends in the suffix that is set by default. -/
theorem builtinType?_append_custom (t : Text) :
    (t ++ ({} : Settings).nameSuffix).builtinType? = none :=
  builtinType?_append_eq_none (by decide +kernel) t

/-! ### The names that are kept -/

/-- An array is not the type of dates, nor is it looked up as any other type. -/
theorem array_ne_dateTimeType (base : Text) :
    base ++ arrayMark ≠ dateTimeType ∧ (base ++ arrayMark).builtinType? = none := by
  refine ⟨fun h => ?_, builtinType?_append_eq_none (by decide +kernel) base⟩
  have hbracket : CodePoint.ofChar ']' ∈ base ++ arrayMark :=
    List.mem_append_right base (by decide)
  rw [h] at hbracket
  exact absurd hbracket (by decide)

/-- An identifier is none of the rendered types. -/
theorem not_mem_builtinNames {t : Text} (h : t.isIdentifier = true) : t ∉ builtinNames :=
  fun hmem => Bool.noConfusion ((builtinNames_entry t hmem).1.symm.trans h)

/-- A name that was given is kept unless it is the type of dates or is looked up as another one. -/
theorem typeKept_iff (hs : s.KeepsNames) (hn : s.typeName raw = .ok n) :
    s.TypeKept n.name ↔
      n.name ≠ dateTimeType ∧ (n.name.builtinType? = none ∨ n.name.builtinType? = some n.name) := by
  rcases s.typeName_cases hn with
    ⟨_, base, _, hbase, rfl⟩ | ⟨_, b, hb, rfl⟩ | ⟨_, _, base, hbase, rfl⟩
  · obtain ⟨hne, hnone⟩ := array_ne_dateTimeType base
    exact iff_of_true (typeKept_array hs hbase) ⟨hne, Or.inl hnone⟩
  · have hmem := Text.mem_builtinNames_of_builtinType? hb
    rw [typeKept_builtin_iff hs hmem, iff_self_and]
    intro hne
    exact Or.inr ((builtinType?_of_mem_builtinNames b hmem).trans (if_neg hne))
  · have hno := not_mem_builtinNames (isIdentifier_suffixedName s raw.toText hs.safeSuffix
      (RawValue.isIdentifier_of_normalize hbase))
    rw [typeKept_suffixedName_iff hs raw.toText hbase]
    constructor
    · intro hnone
      exact ⟨fun h => hno (h ▸ dateTimeType_mem_builtinNames), Or.inl hnone⟩
    · rintro ⟨_, hnone | hself⟩
      · exact hnone
      · exact absurd (Text.mem_builtinNames_of_builtinType? hself) hno

/-- A name that is not kept is the type of dates, or was given to a type that is neither an array nor
    built in, and is itself looked up as one that is. -/
theorem not_typeKept_iff (hs : s.KeepsNames) (hn : s.typeName raw = .ok n) :
    ¬ s.TypeKept n.name ↔
      n.name = dateTimeType ∨ NamesGenerated raw n.name ∧ n.name.builtinType?.isSome = true := by
  rcases s.typeName_cases hn with
    ⟨element, base, helement, hbase, rfl⟩ | ⟨_, b, hb, rfl⟩ | ⟨harray, hnone, base, hbase, rfl⟩
  · have hmark : arrayMark <:+ raw.toText := ⟨element, helement.symm⟩
    refine iff_of_false (fun hno => hno (typeKept_array hs hbase)) ?_
    rintro (hdate | ⟨hg, _⟩)
    · exact (array_ne_dateTimeType base).1 hdate
    · exact hg.1 hmark
  · have hother : ¬ NamesGenerated raw b := fun hg => nomatch hb.symm.trans hg.2.1
    rw [typeKept_builtin_iff hs (Text.mem_builtinNames_of_builtinType? hb), Ne, Decidable.not_not]
    simp only [hother, false_and, or_false]
  · have hid := isIdentifier_suffixedName s raw.toText hs.safeSuffix
      (RawValue.isIdentifier_of_normalize hbase)
    have hg : NamesGenerated raw (s.suffixedName raw.toText base).name := ⟨harray, hnone, hid⟩
    have hne : (s.suffixedName raw.toText base).name ≠ dateTimeType :=
      fun h => not_mem_builtinNames hid (h ▸ dateTimeType_mem_builtinNames)
    rw [typeKept_suffixedName_iff hs raw.toText hbase, ← Ne, ← Option.isSome_iff_ne_none]
    simp only [hne, hg, true_and, false_or]

/-- The name of a keyword with the suffix `Custom` is kept. -/
theorem typeKept_of_keyword (hs : s.KeepsNames) (hcustom : s.nameSuffix = "Custom") {base : Text}
    (h : raw.normalize s.namePrefix = .ok base) (hk : base.isKeyword = true) :
    s.TypeKept (base ++ s.nameSuffix) := by
  have hkept := typeKept_suffixedName_iff hs raw.toText h
  rw [s.name_suffixedName_of_isKeyword raw.toText hk, hcustom] at hkept
  rw [hcustom]
  exact hkept.mpr (builtinType?_append_custom base)

/-- Which names are kept of those that were given to types. -/
structure KeptAsListed (s : Settings) (raw : RawValue) (n : Named) : Prop where
  /-- The name is not the type of dates, and is not listed as another type. -/
  kept_iff : s.TypeKept n.name ↔ n.name ≠ dateTimeType ∧
    (builtinTypes.lookup n.name.lower = none ∨ builtinTypes.lookup n.name.lower = some n.name)
  array : arrayMark <:+ raw.toText → s.TypeKept n.name
  rendered : n.name ∈ (["int", "float", "string"] : List Text) → s.TypeKept n.name
  generated : NamesGenerated raw n.name → (s.TypeKept n.name ↔ n.name.builtinType? = none)
  not_kept_iff : ¬ s.TypeKept n.name ↔
    n.name = dateTimeType ∨ NamesGenerated raw n.name ∧ n.name.builtinType?.isSome = true

/-- Whether a name is kept can be told from the table of built-in types. -/
theorem keptAsListed (hs : s.KeepsNames) (hn : s.typeName raw = .ok n) : KeptAsListed s raw n where
  kept_iff := typeKept_iff hs hn
  array := by
    rintro ⟨element, helement⟩
    rw [s.typeName_of_array helement.symm, map_eq_ok_iff] at hn
    obtain ⟨base, hbase, rfl⟩ := hn
    exact typeKept_array hs hbase
  rendered hmem := by
    have hrendered : ∀ b ∈ (["int", "float", "string"] : List Text),
        b ∈ builtinNames ∧ b ≠ dateTimeType := by decide +kernel
    obtain ⟨hbuiltin, hne⟩ := hrendered n.name hmem
    exact (typeKept_builtin_iff hs hbuiltin).mpr hne
  generated := by
    rintro ⟨harray, hnone, _⟩
    rw [s.typeName_of_generated harray hnone, map_eq_ok_iff] at hn
    obtain ⟨base, hbase, rfl⟩ := hn
    exact typeKept_suffixedName_iff hs raw.toText hbase
  not_kept_iff := not_typeKept_iff hs hn

/-- **Types that are named again.**  Let the prefix be stable, and let the suffix be made of
    identifier characters without accents and make no keyword of a keyword, as they are by default.
    Then a type that is called by a name given to a type keeps it exactly if that is not the type of
    dates, and the table of built-in types has no entry for it or the name itself.  So arrays, `int`,
    `float` and `string` are kept, and the names of other types are unless they are spelled like a
    type of a schema that is built in.  Only such names and the type of dates are not kept.  With the
    suffix `Custom` all keywords with the suffix are, and `long` is not, which is the name of
    `lo-ng`. -/
theorem typeName_kept_iff :
    (∀ (s : Settings) (raw : RawValue) (n : Named), s.KeepsNames → s.typeName raw = .ok n →
      KeptAsListed s raw n) ∧
    ({} : Settings).KeepsNames ∧
    (∀ (s : Settings) (raw : RawValue) (base : Text) (n : Named), s.KeepsNames →
      s.nameSuffix = "Custom" → raw.normalize s.namePrefix = .ok base → base.isKeyword = true →
        s.typeName raw = .ok n → NamesGenerated raw n.name → s.TypeKept n.name) ∧
    ({} : Settings).typeName (.text "lo-ng") = .ok { name := "long" } ∧
    ({} : Settings).typeName (.text "long") = .ok { name := "int" } := by
  refine ⟨fun s raw n hs hn => keptAsListed hs hn,
    ⟨by decide +kernel, by decide +kernel, freesKeywords_custom⟩, ?_, rfl, rfl⟩
  rintro s raw base n hs hcustom hbase hk hn ⟨harray, hnone, _⟩
  rw [s.typeName_of_generated harray hnone, RawValue.normalize_text_toText.mpr hbase] at hn
  cases hn
  rw [s.name_suffixedName_of_isKeyword raw.toText hk]
  exact typeKept_of_keyword hs hcustom hbase hk

/-- The type `lo-ng` is called `long`, which is a type of a schema itself and is not kept.  The names
    of an array, of an integer type and of a keyword are. -/
theorem typeName_kept_long :
    let s : Settings := {}
    s.KeepsNames ∧
    (∃ n, s.typeName (.text "lo-ng") = .ok n ∧ n.name = "long" ∧ ¬ s.TypeKept n.name) ∧
    (∃ n, s.typeName (.text "École[]") = .ok n ∧ n.name = "Ecole[]" ∧ s.TypeKept n.name) ∧
    (∃ n, s.typeName (.text "Short") = .ok n ∧ n.name = "int" ∧ s.TypeKept n.name) ∧
    (∃ n, s.typeName (.text "Class") = .ok n ∧ n.name = "ClassCustom" ∧ s.TypeKept n.name) := by
  intro s
  obtain ⟨hkept, hs, hkeyword, hlong, _⟩ := typeName_kept_iff
  have harray : s.typeName (.text "École[]") = .ok { name := "Ecole[]" } := rfl
  have hint : s.typeName (.text "Short") = .ok { name := "int" } := rfl
  have hclass : s.typeName (.text "Class") = .ok
      { name := "ClassCustom", rename := some ⟨"类型", "Class", "ClassCustom"⟩ } := rfl
  refine ⟨hs, ⟨_, hlong, rfl, ?_⟩, ⟨_, harray, rfl, ?_⟩, ⟨_, hint, rfl, ?_⟩, ⟨_, hclass, rfl, ?_⟩⟩
  · -- the name was given to a type that is neither an array nor built in
    have hg : NamesGenerated (.text "lo-ng") "long" :=
      ⟨by decide +kernel, by decide +kernel, by decide +kernel⟩
    rw [(hkept s _ _ hs hlong).generated hg]
    decide +kernel
  · exact (hkept s _ _ hs harray).array ⟨"École", rfl⟩
  · exact (hkept s _ _ hs hint).rendered (by decide +kernel)
  · have hbase : (RawValue.text "Class").normalize s.namePrefix = .ok "Class" := rfl
    have hg : NamesGenerated (.text "Class") "ClassCustom" :=
      ⟨by decide +kernel, by decide +kernel, by decide +kernel⟩
    exact hkeyword s _ _ _ hs rfl hbase (by decide +kernel) hclass hg

/-- The suffix `uble` makes no keyword of a keyword, but it makes the type `double` of the keyword
    `do`, and `double` becomes `float`. -/
theorem suffixed_keyword_not_kept :
    let s : Settings := { nameSuffix := "uble" }
    s.KeepsNames ∧
    (RawValue.text "do").normalize s.namePrefix = .ok "do" ∧ Text.isKeyword "do" = true ∧
    (s.typeName (.text "do")).map (·.name) = .ok "double" ∧
    (s.typeName (.text "double")).map (·.name) = .ok "float" ∧
    ¬ s.TypeKept "double" := by
  intro s
  have hs : s.KeepsNames :=
    ⟨by decide +kernel, by decide +kernel, freesKeywords_of_ends_none (by decide +kernel)⟩
  have hfloat : Text.builtinType? "double" = some "float" := by decide +kernel
  refine ⟨hs, rfl, by decide +kernel, rfl, rfl, ?_⟩
  rw [typeKept_iff_of_builtinType? (by decide +kernel) hfloat]
  decide +kernel

end TypeStability

end SchemaNaming
