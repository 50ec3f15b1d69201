import SchemaNaming.Proofs.ClassName
import SchemaNaming.Proofs.TypeName

namespace SchemaNaming

/-!
# Types that name classes

A type that is neither an array nor built in names the class that is generated for it.  The two
names are found in different ways: the name of the type gets the suffix once if it is a keyword,
while the name of the class goes on along the candidates until there is no keyword.  They agree on
all names exactly if the suffix makes no keyword of a keyword.  The element of an array is not kept
from being a keyword at all.

* `SameAnswer` — the same name is given, or none for want of an identifier;
* `typeName_sameAnswer_className` — such a suffix keeps the names of a type and its class together;
* `freesKeywords_of_sameAnswer` — any other suffix parts them;
* `typeName_array_eq_iff` — an array follows its class unless that is called by a keyword;
* `TypesFollowClasses` — when a type has the name of its class, and when an array has;
* `typeName_className_agree_iff` — this is so under all prefixes and suffixes.
-/

/-- Both answers give the same name, or both refuse since nothing is left of the value. -/
def SameAnswer (a b : Except Refusal Named) : Prop :=
  (∃ m n, a = .ok m ∧ b = .ok n ∧ m.name = n.name) ∨
    ∃ x y, a = .error (.emptyIdentifier x) ∧ b = .error (.emptyIdentifier y)

/-- The text of a type that is neither an array nor built in, so that a class is generated for it. -/
def NamesClass (t : Text) : Prop := ¬ arrayMark <:+ t ∧ t.builtinType? = none

variable {s : Settings} {x : Text} {scope : Option Text}

/-! ### Types and their classes -/

/-- A suffix that makes no keyword of a keyword is not empty. -/
theorem ne_nil_of_freesKeywords {suffix : Text} (h : FreesKeywords suffix) : suffix ≠ [] := by
  rintro rfl
  exact not_freesKeywords_nil h

/-- With such a suffix a type and its class have the same name. -/
theorem typeName_sameAnswer_className (hs : FreesKeywords s.nameSuffix) (hx : NamesClass x)
    (scope : Option Text) :
    SameAnswer (s.typeName (.text x)) (s.className (.text x) scope .free) := by
  have harray : ¬ arrayMark <:+ (RawValue.text x).toText := hx.1
  rw [s.typeName_of_generated harray hx.2]
  show SameAnswer (((RawValue.text x).normalize s.namePrefix).map (s.suffixedName x)) _
  cases hbase : (RawValue.text x).normalize s.namePrefix with
  | error e =>
    obtain ⟨_, rfl⟩ := (RawValue.normalize_eq_error_iff _ _ e).mp hbase
    exact Or.inr ⟨_, _, rfl, s.className_of_normalize_error scope .free hbase⟩
  | ok base =>
    left
    by_cases hk : base.isKeyword
    · -- the second candidate of the class is the name of the type, and no keyword
      have hfree := not_isKeyword_append hs hk
      obtain ⟨n, hn, hname⟩ :=
        className_free_of_isKeyword scope hbase hk (ne_nil_of_freesKeywords hs) hfree
      exact ⟨_, n, rfl, hn, (s.name_suffixedName_of_isKeyword x hk).trans hname.symm⟩
    · obtain ⟨n, hn, hname⟩ :=
        className_free_of_not_isKeyword scope hbase (Bool.eq_false_iff.mpr hk)
      exact ⟨_, n, rfl, hn, (s.name_suffixedName_of_not_isKeyword x hk).trans hname.symm⟩

/-- If all types have the names of their classes, the suffix makes no keyword of a keyword: the type
    would be called by it, but the class would not. -/
theorem freesKeywords_of_sameAnswer (scope : Option Text)
    (h : ∀ x, NamesClass x → SameAnswer (s.typeName (.text x)) (s.className (.text x) scope .free)) :
    FreesKeywords s.nameSuffix := by
  intro k hk hmem
  obtain ⟨m, hm, hmname⟩ := typeName_dashed_keyword s hk
  have hkeyword : m.name.isKeyword = true := by
    rw [hmname, isKeyword_append_iff s.nameSuffix (Text.isKeyword_of_mem hk),
      kelvinFold_keyword hk]
    exact hmem
  have hclass : NamesClass (dashed k) := ⟨not_isSuffix_arrayMark_dashed k, builtinType?_dashed k⟩
  rcases h _ hclass with ⟨m', n, hm', hn, hname⟩ | ⟨_, _, herror, _⟩
  · obtain rfl : m = m' := Except.ok.inj (hm.symm.trans hm')
    obtain ⟨_, _, _, _, hno⟩ := exists_candidate_of_className hn
    rw [hname, hno] at hkeyword
    exact Bool.noConfusion hkeyword
  · exact nomatch hm.symm.trans herror

/-! ### Arrays -/

/-- An array follows the class of its element exactly if the normal form of the element is no
    keyword. -/
theorem typeName_array_eq_iff {m n : Named} (hm : s.typeName (.text (x ++ arrayMark)) = .ok m)
    (hn : s.className (.text x) scope .free = .ok n) :
    m.name = n.name ++ arrayMark ↔
      ∃ base, (RawValue.text x).normalize s.namePrefix = .ok base ∧ base.isKeyword = false := by
  have harray : (RawValue.text (x ++ arrayMark)).toText = x ++ arrayMark := rfl
  rw [s.typeName_of_array harray, map_eq_ok_iff] at hm
  obtain ⟨base, hbase, rfl⟩ := hm
  rw [List.append_cancel_right_eq]
  constructor
  · -- no class is called by a keyword
    intro heq
    obtain ⟨_, _, _, _, hno⟩ := exists_candidate_of_className hn
    exact ⟨base, hbase, heq ▸ hno⟩
  · rintro ⟨base', hbase', hk⟩
    obtain rfl : base = base' := Except.ok.inj (hbase.symm.trans hbase')
    obtain ⟨n', hn', hname⟩ := className_free_of_not_isKeyword scope hbase hk
    obtain rfl : n = n' := Except.ok.inj (hn.symm.trans hn')
    exact hname.symm

/-- Where types have the names of their classes, and where they have not. -/
structure TypesFollowClasses : Prop where
  /-- Types that are neither arrays nor built in have the names of their classes, or are refused with
      them, exactly under these suffixes. -/
  agree_iff : ∀ p suffix : Text, FreesKeywords suffix ↔
    ∀ (s : Settings) (x : Text) (scope : Option Text), s.namePrefix = p → s.nameSuffix = suffix →
      ¬ arrayMark <:+ x → x.builtinType? = none →
        SameAnswer (s.typeName (.text x)) (s.className (.text x) scope .free)
  custom : FreesKeywords "Custom"
  /-- Without a suffix the type `list` keeps its name, while the class is `list2`. -/
  unsuffixed : ¬ FreesKeywords "" ∧
    (({ nameSuffix := "" } : Settings).typeName (.text "list")).map (·.name) = .ok "list" ∧
    (({ nameSuffix := "" } : Settings).className (.text "list") none .free).map (·.name) =
      .ok "list2"
  /-- An array has the name of its class with the mark behind it, unless the normal form of its
      element is a keyword. -/
  array_iff : ∀ (s : Settings) (x : Text) (scope : Option Text) (m n : Named),
    s.typeName (.text (x ++ arrayMark)) = .ok m → s.className (.text x) scope .free = .ok n →
      (m.name = n.name ++ arrayMark ↔
        ∃ base, (RawValue.text x).normalize s.namePrefix = .ok base ∧ base.isKeyword = false)
  /-- The array `list[]` does not follow `listCustom`. -/
  arrayOfList :
    (({} : Settings).typeName (.text "list[]")).map (·.name) = .ok "list[]" ∧
    (({} : Settings).className (.text "list") none .free).map (·.name) = .ok "listCustom"

/-- **Types and their classes.**  Whatever the prefix, the types that are neither arrays nor built in
    have the names of their classes, or are refused with them, exactly if the suffix makes no
    keyword of a keyword.  So it is for `Custom`, but without a suffix the type `list` keeps its name
    while the class is `list2`.  An array has the name of its class with the mark behind it exactly
    if the normal form of its element is no keyword; so `list[]` does not follow `listCustom`. -/
theorem typeName_className_agree_iff : TypesFollowClasses where
  agree_iff p suffix := by
    constructor
    · rintro hs s x scope rfl rfl harray hb
      exact typeName_sameAnswer_className hs ⟨harray, hb⟩ scope
    · intro h
      let s : Settings := { namePrefix := p, nameSuffix := suffix }
      have hs : FreesKeywords s.nameSuffix := by
        apply freesKeywords_of_sameAnswer none
        intro x hx
        exact h s x none rfl rfl hx.1 hx.2
      exact hs
  custom := freesKeywords_custom
  unsuffixed := ⟨not_freesKeywords_nil, rfl, rfl⟩
  array_iff _ _ _ _ _ hm hn := typeName_array_eq_iff hm hn
  arrayOfList := ⟨rfl, rfl⟩

/-- The type `list` has the name of its class, and the array of `item` that of the class `item`. -/
theorem typeName_className_agree_list :
    (¬ arrayMark <:+ ("list" : Text) ∧ Text.builtinType? "list" = none ∧
      SameAnswer (({} : Settings).typeName (.text "list"))
        (({} : Settings).className (.text "list") none .free)) ∧
    ∃ m n, ({} : Settings).typeName (.text ("item" ++ arrayMark)) = .ok m ∧
      ({} : Settings).className (.text "item") none .free = .ok n ∧
      m.name = n.name ++ arrayMark := by
  have harray : ¬ arrayMark <:+ ("list" : Text) := by decide
  have hb : Text.builtinType? "list" = none := by decide +kernel
  have hsame := (typeName_className_agree_iff.agree_iff "a" "Custom").mp
    typeName_className_agree_iff.custom {} "list" none rfl rfl harray hb
  have hm : ({} : Settings).typeName (.text ("item" ++ arrayMark)) = .ok { name := "item[]" } := rfl
  have hn : ({} : Settings).className (.text "item") none .free =
      .ok { name := "item" } := rfl
  have hkey : Text.isKeyword "item" = false := by decide +kernel
  refine ⟨⟨harray, hb, hsame⟩, _, _, hm, hn, ?_⟩
  exact (typeName_className_agree_iff.array_iff {} "item" none _ _ hm hn).mpr ⟨"item", rfl, hkey⟩

end SchemaNaming
