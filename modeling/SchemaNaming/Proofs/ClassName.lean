import SchemaNaming.Proofs.Keyword
import SchemaNaming.Proofs.Naming
import SchemaNaming.Proofs.Walk

namespace SchemaNaming

/-!
# Legal names of classes

The name of a class is a candidate that is no keyword, so whether it is an identifier depends on what
stands behind the normal form of the value: digits, which do no harm, and the suffix.

* `isIdentifier_candidate` — a suffix of identifier characters makes identifiers of identifiers;
* `className_free_of_first` — what a class is called as long as no name is taken;
* `className_legal_iff_suffix` — names of classes are no keywords, and all of them are identifiers
  exactly under the suffixes of identifier characters.
-/

/-- Behind the base of a candidate there are characters of the suffix, and digits. -/
theorem forall_mem_ending {P : CodePoint → Prop} {suffix : Text} (hsuffix : ∀ c ∈ suffix, P c)
    (hdigit : ∀ c : CodePoint, c.isAsciiDigit = true → P c) (i : Nat) :
    ∀ c ∈ ending suffix i, P c := by
  have hdigits : ∀ n, ∀ c ∈ Text.ofNat n, P c := fun n c hc =>
    hdigit c (Text.isAsciiDigit_of_mem_ofNat n c hc)
  unfold ending
  split
  · intro c hc
    cases hc
  · split
    · exact hdigits (i + 1)
    · split
      · exact hsuffix
      · exact List.forall_mem_append.mpr ⟨hsuffix, hdigits i⟩

/-- Every candidate for an identifier is one, if the suffix is made of identifier characters. -/
theorem isIdentifier_candidate {base suffix : Text} (hbase : base.isIdentifier true = true)
    (hsuffix : ∀ c ∈ suffix, c.isIdentifierChar = true) (i : Nat) :
    (candidate base suffix i).isIdentifier true = true := by
  rw [candidate_eq_append]
  exact Text.isIdentifier_append hbase
    (forall_mem_ending hsuffix (fun _ => CodePoint.isIdentifierChar_of_isAsciiDigit) i)

/-- From the third candidate on there is a number at the end. -/
theorem exists_isAsciiDigit_mem_ending (suffix : Text) {i : Nat} (hi : 2 ≤ i) :
    ∃ c ∈ ending suffix i, c.isAsciiDigit = true := by
  have hdigit : ∀ n, ∃ c ∈ Text.ofNat n, c.isAsciiDigit = true := by
    intro n
    obtain ⟨c, hc⟩ := List.exists_mem_of_ne_nil _ (Text.ofNat_ne_nil n)
    exact ⟨c, hc, Text.isAsciiDigit_of_mem_ofNat n c hc⟩
  unfold ending
  rw [if_neg (by omega)]
  split
  · exact hdigit (i + 1)
  · rw [if_neg (by omega)]
    obtain ⟨c, hc, h⟩ := hdigit i
    exact ⟨c, List.mem_append_right suffix hc, h⟩

/-- No candidate from the third one on is a keyword. -/
theorem not_isKeyword_candidate (base suffix : Text) {i : Nat} (hi : 2 ≤ i) :
    (candidate base suffix i).isKeyword = false := by
  obtain ⟨c, hc, hdigit⟩ := exists_isAsciiDigit_mem_ending suffix hi
  rw [candidate_eq_append]
  exact Text.not_isKeyword_of_isAsciiDigit (List.mem_append_right base hc) hdigit

/-- The name of a class is a candidate for the normal form of the value, and no keyword. -/
theorem exists_candidate_of_className {s : Settings} {raw : RawValue} {scope : Option Text}
    {o : Occupancy} {n : Named} (h : s.className raw scope o = .ok n) :
    ∃ base i, raw.normalize s.namePrefix = .ok base ∧ n.name = candidate base s.nameSuffix i ∧
      n.name.isKeyword = false := by
  obtain ⟨base, hbase, m, _, hstops, rfl⟩ := (s.className_eq_ok_iff raw n scope o).mp h
  exact ⟨base, m, hbase, rfl, hstops.free.1⟩

/-- The name of a class was found free, after some questions. -/
theorem not_taken_of_className {s : Settings} {raw : RawValue} {scope : Option Text}
    {o : Occupancy} {n : Named} (h : s.className raw scope o = .ok n) :
    ∃ asked, o.taken asked (qualify scope n.name) = false := by
  obtain ⟨base, _, m, _, hstops, rfl⟩ := (s.className_eq_ok_iff raw n scope o).mp h
  exact ⟨_, hstops.free.2⟩

/-- As long as no name is taken, a class has the first candidate that is no keyword, if that is one
    of those in reach. -/
theorem className_free_of_first {s : Settings} {raw : RawValue} (scope : Option Text) {base : Text}
    (hbase : raw.normalize s.namePrefix = .ok base) {m : Nat} (hm : m < Occupancy.free.reach)
    (hpass : ∀ i < m, (candidate base s.nameSuffix i).isKeyword = true)
    (hstop : (candidate base s.nameSuffix m).isKeyword = false) :
    ∃ n, s.className raw scope .free = .ok n ∧ n.name = candidate base s.nameSuffix m := by
  have hstops : (s.classWalk base scope .free).StopsAt m := by
    constructor
    · exact fun i hi => Or.inl (hpass i hi)
    · rintro (hres | htaken)
      · exact Bool.noConfusion (hres.symm.trans hstop)
      · exact Bool.noConfusion htaken
  exact ⟨_, Settings.className_of_stopsAt hbase hm hstops, rfl⟩

/-- A normal form that is no keyword is the name of the class. -/
theorem className_free_of_not_isKeyword {s : Settings} {raw : RawValue} (scope : Option Text)
    {base : Text} (hbase : raw.normalize s.namePrefix = .ok base) (hk : base.isKeyword = false) :
    ∃ n, s.className raw scope .free = .ok n ∧ n.name = base :=
  className_free_of_first scope hbase (m := 0) (by decide) (fun i hi => absurd hi (by omega)) hk

/-- A normal form that is a keyword gets the suffix, if that makes no keyword of it. -/
theorem className_free_of_isKeyword {s : Settings} {raw : RawValue} (scope : Option Text)
    {base : Text} (hbase : raw.normalize s.namePrefix = .ok base) (hk : base.isKeyword = true)
    (hne : s.nameSuffix ≠ []) (hfree : (base ++ s.nameSuffix).isKeyword = false) :
    ∃ n, s.className raw scope .free = .ok n ∧ n.name = base ++ s.nameSuffix := by
  rw [← candidate_one base hne] at hfree ⊢
  refine className_free_of_first scope hbase (m := 1) (by decide) (fun i hi => ?_) hfree
  -- the only candidate before is the keyword itself
  obtain rfl : i = 0 := by omega
  exact hk

/-- A class named by a keyword gets the suffix, if that makes no keyword of it. -/
theorem className_text_keyword (s : Settings) (scope : Option Text) {k : Text} (hk : k ∈ keywords)
    (hne : s.nameSuffix ≠ []) (hfree : (k ++ s.nameSuffix).isKeyword = false) :
    ∃ n, s.className (.text k) scope .free = .ok n ∧ n.name = k ++ s.nameSuffix :=
  className_free_of_isKeyword scope (normalize_keyword hk s.namePrefix) (Text.isKeyword_of_mem hk)
    hne hfree

/-- **Legal names of classes.**  No name of a class is a keyword, whatever is taken and in whatever
    way that is found out.  All names of classes are identifiers exactly if every character of the
    suffix is an identifier character. -/
theorem className_legal_iff_suffix :
    (∀ (s : Settings) (raw : RawValue) (scope : Option Text) (o : Occupancy) (n : Named),
      s.className raw scope o = .ok n → n.name.isKeyword = false) ∧
    ∀ suffix : Text,
      (∀ (s : Settings) (raw : RawValue) (scope : Option Text) (o : Occupancy) (n : Named),
        s.nameSuffix = suffix → s.className raw scope o = .ok n → n.name.isIdentifier = true) ↔
      ∀ c ∈ suffix, c.isIdentifierChar = true := by
  refine ⟨fun s raw scope o n h => ?_, fun suffix => ⟨fun h c hc => ?_, fun h => ?_⟩⟩
  · obtain ⟨_, _, _, _, hk⟩ := exists_candidate_of_className h
    exact hk
  · -- otherwise the class named `class` would be called by no identifier
    apply Decidable.byContradiction
    intro hbad
    have hclass : ("class" : Text) ∈ keywords := by decide +kernel
    have hne : suffix ≠ [] := List.ne_nil_of_mem hc
    have hfree : ("class" ++ suffix : Text).isKeyword = false := by
      rw [Bool.eq_false_iff]
      intro hk
      exact hbad (Text.isIdentifierChar_of_isKeyword hk c (List.mem_append_right _ hc))
    obtain ⟨n, hn, hname⟩ := className_text_keyword { nameSuffix := suffix } none hclass hne hfree
    have hid := ((Text.isIdentifier_iff _).mp (h _ _ _ _ n rfl hn)).1
    rw [hname, Text.isIdentifier_append_iff (keyword_spelling _ hclass).1] at hid
    exact hbad (hid.2 c hc)
  · rintro s raw scope o n rfl hn
    -- every candidate is an identifier, and the walk has left the keywords out
    obtain ⟨base, i, hbase, hname, hk⟩ := exists_candidate_of_className hn
    rw [Text.isIdentifier_iff]
    refine ⟨?_, hk⟩
    rw [hname]
    exact isIdentifier_candidate (RawValue.isIdentifier_of_normalize hbase) h i

/-- A class named by a keyword, under a suffix that keeps names legal. -/
theorem className_legal_of_suffix_custom :
    ∃ n, ({ nameSuffix := "Custom" } : Settings).className (.text "class") none .free = .ok n ∧
      n.name = "classCustom" ∧ n.name.isKeyword = false ∧ n.name.isIdentifier = true := by
  have hname : ∃ n, ({ nameSuffix := "Custom" } : Settings).className (.text "class") none .free
      = .ok n ∧ n.name = "classCustom" := by
    refine className_text_keyword _ none (k := "class") ?_ ?_ ?_ <;> decide +kernel
  obtain ⟨n, hn, hcalled⟩ := hname
  have hsuffix : ∀ c ∈ ("Custom" : Text), c.isIdentifierChar = true := by decide +kernel
  exact ⟨n, hn, hcalled, className_legal_iff_suffix.1 _ _ _ _ n hn,
    (className_legal_iff_suffix.2 "Custom").mpr hsuffix _ _ _ _ n rfl hn⟩

end SchemaNaming
