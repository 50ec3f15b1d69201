import SchemaNaming.Proofs.Keyword
import SchemaNaming.Proofs.Naming

namespace SchemaNaming

/-!
# Prefixes that keep operations and constants legal

A keyword gets the prefix and is not looked at again, so it depends on the prefix alone whether all
names of operations and constants are identifiers: it has to be one itself, and must not make one
keyword of another.

* `SafePrefix` — the prefixes that do so;
* `isIdentifier_ledName` — under a safe prefix, what becomes of a name is an identifier;
* `safePrefix_of_ledName` — an unsafe prefix spoils the name of some keyword;
* `operationsLegal_iff_safePrefix` — the prefixes that keep all names legal are the safe ones.
-/

/-- Every name of an operation is an identifier, as long as `p` is the prefix. -/
def OperationsLegal (p : Text) : Prop :=
  ∀ (s : Settings) (raw : RawValue) (n : Named), s.namePrefix = p →
    s.operationName raw = .ok n → n.name.isIdentifier = true

/-- Every name of a constant is an identifier, as long as `p` is the prefix. -/
def ConstantsLegal (p : Text) : Prop :=
  ∀ (s : Settings) (raw : RawValue) (n : Named), s.namePrefix = p →
    s.constantName raw = .ok n → n.name.isIdentifier = true

/-- The prefix is an identifier, and no keyword is another one behind the prefix. -/
structure SafePrefix (p : Text) : Prop where
  isIdentifier : p.isIdentifier true = true
  notMem : ∀ k ∈ keywords, p.asciiFold ++ k ∉ keywords

instance (p : Text) : Decidable (SafePrefix p) :=
  decidable_of_iff (p.isIdentifier true = true ∧ ∀ k ∈ keywords, p.asciiFold ++ k ∉ keywords)
    ⟨fun h => ⟨h.1, h.2⟩, fun h => ⟨h.1, h.2⟩⟩

/-! ### Names that are led -/

/-- A led keyword is a keyword again exactly if the prefix makes one of it. -/
theorem isKeyword_append_capitalize_iff (p : Text) {name : Text} (hname : name.isKeyword = true) :
    (p ++ name.capitalize).isKeyword = true ↔ p.asciiFold ++ name.kelvinFold ∈ keywords := by
  have hk : name.kelvinFold ∈ keywords := (Text.isKeyword_iff name).mp hname
  have hfold : (p ++ name.capitalize).kelvinFold = p.kelvinFold ++ name.kelvinFold := by
    rw [Text.kelvinFold_append, ← Text.kelvinFold_asciiFold name.capitalize,
      Text.asciiFold_capitalize, Text.kelvinFold_asciiFold]
  rw [Text.isKeyword_iff, hfold, kelvinFold_append_mem_keywords_iff p hk]

/-- A keyword gets the prefix. -/
theorem name_ledName_of_isKeyword (s : Settings) (kind : Text) {name : Text}
    (hk : name.isKeyword = true) :
    (s.ledName kind name).name = s.namePrefix ++ name.capitalize := by
  rw [Settings.ledName, if_pos hk]

/-- What is no keyword keeps its name. -/
theorem name_ledName_of_not_isKeyword (s : Settings) (kind : Text) {name : Text}
    (hk : ¬ name.isKeyword = true) : (s.ledName kind name).name = name := by
  rw [Settings.ledName, if_neg hk]

/-- Under a safe prefix what becomes of an identifier is an identifier and no keyword. -/
theorem isIdentifier_ledName (s : Settings) (kind : Text) {name : Text}
    (hp : SafePrefix s.namePrefix) (hname : name.isIdentifier true = true) :
    (s.ledName kind name).name.isIdentifier = true := by
  rw [Text.isIdentifier_iff]
  by_cases hk : name.isKeyword
  · rw [name_ledName_of_isKeyword s kind hk]
    constructor
    · exact Text.isIdentifier_append hp.isIdentifier
        (Text.isIdentifierChar_of_mem_capitalize (Text.isIdentifierChar_of_mem hname))
    · rw [Bool.eq_false_iff]
      intro hled
      rw [isKeyword_append_capitalize_iff s.namePrefix hk] at hled
      exact hp.notMem _ ((Text.isKeyword_iff name).mp hk) hled
  · rw [name_ledName_of_not_isKeyword s kind hk]
    exact ⟨hname, Bool.eq_false_iff.mpr hk⟩

/-- A prefix under which all keywords become identifiers is safe. -/
theorem safePrefix_of_ledName (s : Settings) (kind : Text)
    (h : ∀ k ∈ keywords, (s.ledName kind k).name.isIdentifier = true) :
    SafePrefix s.namePrefix := by
  have hled : ∀ k ∈ keywords, (s.namePrefix ++ k.capitalize).isIdentifier = true := by
    intro k hk
    rw [← name_ledName_of_isKeyword s kind (Text.isKeyword_of_mem hk)]
    exact h k hk
  have hnotMem : ∀ k ∈ keywords, s.namePrefix.asciiFold ++ k ∉ keywords := by
    intro k hk hmem
    -- the led keyword would be a keyword, and no identifier
    rw [← kelvinFold_keyword hk] at hmem
    have hkw := (isKeyword_append_capitalize_iff s.namePrefix (Text.isKeyword_of_mem hk)).mpr hmem
    exact Bool.noConfusion ((Text.isIdentifier_of_isKeyword hkw).symm.trans (hled k hk))
  have hclass : ("class" : Text) ∈ keywords := by decide +kernel
  -- behind the empty prefix a keyword would stay one
  have hne : s.namePrefix ≠ [] := by
    intro hnil
    apply hnotMem "class" hclass
    rwa [hnil, Text.asciiFold_nil, List.nil_append]
  -- the prefix is the beginning of an identifier, as it is not empty
  have hid := ((Text.isIdentifier_iff _).mp (hled "class" hclass)).1
  exact ⟨((Text.isIdentifier_append_iff hne).mp hid).1, hnotMem⟩

/-- Whichever kind of name it is, all names are legal exactly under the safe prefixes. -/
theorem keywordLed_legal_iff (kind p : Text) :
    (∀ (s : Settings) (raw : RawValue) (n : Named), s.namePrefix = p →
      s.keywordLed kind raw = .ok n → n.name.isIdentifier = true) ↔ SafePrefix p := by
  constructor
  · intro h
    refine safePrefix_of_ledName { namePrefix := p } kind fun k hk => ?_
    refine h { namePrefix := p } (.text k) _ rfl ?_
    rw [Settings.keywordLed_eq_ok_iff]
    exact ⟨k, normalize_keyword hk p, rfl⟩
  · rintro hp s raw n rfl hn
    obtain ⟨name, hname, rfl⟩ := (s.keywordLed_eq_ok_iff raw n kind).mp hn
    exact isIdentifier_ledName s kind hp (RawValue.isIdentifier_of_normalize hname)

/-- **Legal names of operations and constants.**  They are identifiers for all values exactly when
    the prefix is safe.  The prefix `a` is safe; the empty one leaves `class` a keyword, `9` makes no
    label of it, and `x` makes the keyword `xor` of `or`. -/
theorem operationsLegal_iff_safePrefix :
    (∀ p : Text, (OperationsLegal p ↔ SafePrefix p) ∧ (ConstantsLegal p ↔ SafePrefix p)) ∧
    (OperationsLegal "a" ∧ ConstantsLegal "a") ∧
    (¬ OperationsLegal "" ∧
      (({ namePrefix := "" } : Settings).operationName (.text "class")).map (·.name) =
        .ok "Class" ∧ Text.isIdentifier "Class" = false) ∧
    (¬ OperationsLegal "9" ∧
      (({ namePrefix := "9" } : Settings).operationName (.text "class")).map (·.name) =
        .ok "9Class" ∧ Text.isIdentifier "9Class" true = false) ∧
    (¬ OperationsLegal "x" ∧
      (({ namePrefix := "x" } : Settings).operationName (.text "or")).map (·.name) =
        .ok "xOr" ∧ Text.isKeyword "xOr" = true) := by
  have hiff : ∀ p, OperationsLegal p ↔ SafePrefix p := keywordLed_legal_iff "方法名"
  have hconst : ∀ p, ConstantsLegal p ↔ SafePrefix p := keywordLed_legal_iff "常量名"
  have hsafe : SafePrefix "a" := by decide +kernel
  have hempty : ¬ SafePrefix "" := fun h => absurd h.isIdentifier (by decide +kernel)
  have hnine : ¬ SafePrefix "9" := fun h => absurd h.isIdentifier (by decide +kernel)
  -- the keyword `or` is the keyword `xor` behind the prefix
  have hx : ¬ SafePrefix "x" := fun h => h.notMem "or" (by decide +kernel) (by decide +kernel)
  have hClass : Text.isKeyword "Class" = true :=
    Text.isKeyword_of_asciiFold_mem (by decide +kernel)
  have hxOr : Text.isKeyword "xOr" = true :=
    Text.isKeyword_of_asciiFold_mem (by decide +kernel)
  refine ⟨fun p => ⟨hiff p, hconst p⟩, ⟨(hiff _).mpr hsafe, (hconst _).mpr hsafe⟩, ?_, ?_, ?_⟩
  · rw [hiff]
    exact ⟨hempty, rfl, Text.isIdentifier_of_isKeyword hClass⟩
  · rw [hiff]
    exact ⟨hnine, rfl, by decide +kernel⟩
  · rw [hiff]
    exact ⟨hx, rfl, hxOr⟩

end SchemaNaming
