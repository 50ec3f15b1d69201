import SchemaNaming.Proofs.Idempotence
import SchemaNaming.Proofs.KeywordLed
import SchemaNaming.Proofs.ClassName

namespace SchemaNaming

/-!
# Names that were given before

A name that was given for a value is given again when it comes in as a value itself.  It is a normal
form that the next pass keeps, it is no keyword where keywords are renamed, and a class name that
was found free once is free at the first question, as long as the answers do not depend on the
questions before.

* `Text.Settled` — the identifiers that every normal form keeps;
* `PlainEnding` — what may be put behind a settled name;
* `Occupancy.Stateless` — answers that do not depend on the questions before;
* `Text.settled_candidate`, `settled_ledName` — the names that are made of settled ones;
* `name_again` — names of classes, operations, constants and attributes are given again.
-/

/-! ### Settled names -/

/-- An identifier, or a keyword, that starts plainly and has no accents. -/
structure Text.Settled (t : Text) : Prop where
  isIdentifier : t.isIdentifier true = true
  startsPlain : t.startsPlain = true
  plain : ∀ c ∈ t, c.isAccented = false

instance (t : Text) : Decidable t.Settled :=
  decidable_of_iff
    (t.isIdentifier true = true ∧ t.startsPlain = true ∧ ∀ c ∈ t, c.isAccented = false)
    ⟨fun h => ⟨h.1, h.2.1, h.2.2⟩, fun h => ⟨h.1, h.2, h.3⟩⟩

/-- The text is made of identifier characters without accents. -/
def PlainEnding (t : Text) : Prop :=
  ∀ c ∈ t, c.isIdentifierChar = true ∧ c.isAccented = false

instance (t : Text) : Decidable (PlainEnding t) :=
  inferInstanceAs (Decidable (∀ c ∈ t, c.isIdentifierChar = true ∧ c.isAccented = false))

namespace Text

variable {t u p : Text}

/-- Every normal form keeps a settled name. -/
theorem Settled.normalize_eq (h : t.Settled) (p : Text) :
    (RawValue.text t).normalize p = .ok t := by
  rw [RawValue.normalize_eq_ok_iff]
  have hplain := removeAccents_eq_self_iff.mpr h.plain
  exact ⟨normalForm_eq_self p h.isIdentifier h.startsPlain hplain,
    isIdentifier_ne_nil h.isIdentifier⟩

/-- A settled name is its own core. -/
theorem Settled.core_eq (h : t.Settled) : t.core = t := by
  rw [← cleaned_eq_core, cleaned_eq_self h.isIdentifier]

/-- A settled name may stand behind other names. -/
theorem Settled.plainEnding (h : t.Settled) : PlainEnding t :=
  fun c hc => ⟨isIdentifierChar_of_mem h.isIdentifier c hc, h.plain c hc⟩

/-- A settled name stays one with identifier characters behind it. -/
theorem Settled.append (ht : t.Settled) (hu : PlainEnding u) : (t ++ u).Settled where
  isIdentifier := isIdentifier_append ht.isIdentifier fun c hc => (hu c hc).1
  startsPlain := startsPlain_append ht.startsPlain u
  plain := List.forall_mem_append.mpr ⟨ht.plain, fun c hc => (hu c hc).2⟩

/-- Behind a settled prefix every normal form is settled. -/
theorem settled_of_normalize {raw : RawValue} {name : Text} (hp : p.Settled)
    (h : raw.normalize p = .ok name) : name.Settled := by
  obtain ⟨rfl, hne⟩ := (RawValue.normalize_eq_ok_iff raw p name).mp h
  have hcore : p.core = p := hp.core_eq
  refine ⟨isIdentifier_cleaned hne, ?_, ?_⟩
  · apply startsPlain_normalForm
    rw [hcore]
    exact hp.startsPlain
  · apply isAccented_of_mem_normalForm
    rw [hcore]
    exact hp.plain

/-! ### Names made of settled names -/

/-- A capital letter of ASCII has no accent, and neither has the small one. -/
theorem isAccented_toAsciiUpper (c : CodePoint) : c.toAsciiUpper.isAccented = c.isAccented := by
  cases h : c.isExtended with
  | true => rw [CodePoint.toAsciiUpper_of_isExtended h]
  | false =>
    -- the table has no ASCII letters, in either case
    have hup : c.toAsciiUpper.isExtended = false := by rw [CodePoint.isExtended_toAsciiUpper, h]
    rw [CodePoint.isAccented_of_not_isExtended h, CodePoint.isAccented_of_not_isExtended hup]

/-- A plain ending stays one when it is capitalized. -/
theorem plainEnding_capitalize (h : PlainEnding t) : PlainEnding t.capitalize := by
  cases t with
  | nil => exact h
  | cons c t =>
    have hcons := List.forall_mem_cons.mp h
    refine List.forall_mem_cons.mpr ⟨?_, hcons.2⟩
    rw [CodePoint.isIdentifierChar_toAsciiUpper, isAccented_toAsciiUpper]
    exact hcons.1

/-- What candidates have behind the base is plain if the suffix is. -/
theorem plainEnding_ending {suffix : Text} (h : PlainEnding suffix) (i : Nat) :
    PlainEnding (ending suffix i) := by
  refine forall_mem_ending h (fun c hdigit => ?_) i
  refine ⟨CodePoint.isIdentifierChar_of_isAsciiDigit hdigit, ?_⟩
  apply CodePoint.isAccented_of_not_isExtended
  rw [CodePoint.isAsciiDigit_iff] at hdigit
  rw [CodePoint.isExtended_eq_false_iff]
  omega

/-- The candidates for a settled name are settled. -/
theorem settled_candidate {base suffix : Text} (hbase : base.Settled) (hsuffix : PlainEnding suffix)
    (i : Nat) : (candidate base suffix i).Settled := by
  rw [candidate_eq_append]
  exact hbase.append (plainEnding_ending hsuffix i)

end Text

section Stability

variable {s : Settings} {raw : RawValue} {n : Named}

/-- What becomes of a settled name that may be a keyword is settled, too. -/
theorem settled_ledName (kind : Text) {name : Text} (hp : s.namePrefix.Settled)
    (hname : name.Settled) : (s.ledName kind name).name.Settled := by
  by_cases hk : name.isKeyword
  · rw [name_ledName_of_isKeyword s kind hk]
    exact hp.append (Text.plainEnding_capitalize hname.plainEnding)
  · rw [name_ledName_of_not_isKeyword s kind hk]
    exact hname

/-! ### Names that are given again -/

/-- An attribute that is called by the name of one keeps it. -/
theorem attributeName_again (hp : s.namePrefix.Settled) (h : s.attributeName raw = .ok n) :
    s.attributeName (.text n.name) = .ok { name := n.name } := by
  rw [s.attributeName_eq_map, map_eq_ok_iff] at h
  obtain ⟨name, hname, rfl⟩ := h
  rw [s.attributeName_eq_map, (Text.settled_of_normalize hp hname).normalize_eq]
  rfl

/-- A keyword got the prefix, and is none any more. -/
theorem keywordLed_again (kind : Text) (hp : s.namePrefix.Settled) (hsafe : SafePrefix s.namePrefix)
    (h : s.keywordLed kind raw = .ok n) :
    s.keywordLed kind (.text n.name) = .ok { name := n.name } := by
  obtain ⟨name, hname, rfl⟩ := (s.keywordLed_eq_ok_iff raw n kind).mp h
  have hid := RawValue.isIdentifier_of_normalize hname
  have hsettled := settled_ledName kind hp (Text.settled_of_normalize hp hname)
  obtain ⟨_, hkeyword⟩ := (Text.isIdentifier_iff _).mp (isIdentifier_ledName s kind hsafe hid)
  rw [s.keywordLed_eq_map, hsettled.normalize_eq]
  show Except.ok (s.ledName kind (s.ledName kind name).name) = _
  rw [Settings.ledName, if_neg (Bool.eq_false_iff.mp hkeyword)]

/-- The answer to a question does not depend on the questions before. -/
def Occupancy.Stateless (o : Occupancy) : Prop :=
  ∀ asked asked' name, o.taken asked name = o.taken asked' name

/-- The name of a class was found free, so the walk for it stops at once. -/
theorem className_again {scope : Option Text} {o : Occupancy} (hp : s.namePrefix.Settled)
    (hsuffix : PlainEnding s.nameSuffix) (ho : o.Stateless)
    (h : s.className raw scope o = .ok n) :
    s.className (.text n.name) scope o = .ok
      { name := n.name
        asked := if o.answer?.isSome then [qualify scope n.name] else [] } := by
  obtain ⟨base, i, hbase, hname, hkeyword⟩ := exists_candidate_of_className h
  obtain ⟨asked, hfree⟩ := not_taken_of_className h
  have hsettled : n.name.Settled := by
    rw [hname]
    exact Text.settled_candidate (Text.settled_of_normalize hp hbase) hsuffix i
  have hfree' : o.taken [] (qualify scope n.name) = false := by
    rw [ho [] asked, hfree]
  have hstops : (s.classWalk n.name scope o).StopsAt 0 := by
    refine ⟨fun i hi => absurd hi (Nat.not_lt_zero i), ?_⟩
    rw [Walk.passes_zero_iff]
    rintro (hres | htaken)
    · exact Bool.noConfusion (hres.symm.trans hkeyword)
    · exact Bool.noConfusion (htaken.symm.trans hfree')
  have hreach : 0 < o.reach := Nat.succ_pos _
  rw [Settings.className_of_stopsAt (hsettled.normalize_eq _) hreach hstops]
  have hasked : (s.classWalk n.name scope o).questions 1 =
      if o.answer?.isSome then [qualify scope n.name] else [] := by
    simp [Walk.questions, Walk.nth, Settings.classWalk, hkeyword]
  rw [Settings.classNamed, Walk.foundAt, hasked, candidate_zero, Rename.ofChange?_self]
  rfl

/-- **Names that are given again.**  Let the prefix be safe and settled, and let the suffix be made
    of identifier characters without accents, as they are by default.  Then the name of a class, an
    operation, a constant or an attribute is given again for itself, and no rename is reported.  For
    a class one question is asked then, if there is somebody to ask whose answers do not depend on
    the questions before. -/
theorem name_again :
    (∀ (s : Settings) (category : Category) (raw : RawValue) (scope : Option Text) (o : Occupancy)
      (n : Named), s.namePrefix.Settled → SafePrefix s.namePrefix → PlainEnding s.nameSuffix →
        category ≠ .typeName → o.Stateless → s.name category raw scope o = .ok n →
          s.name category (.text n.name) scope o = .ok
            { name := n.name
              asked :=
                if category = .className ∧ o.answer?.isSome then [qualify scope n.name] else []
              rename := none }) ∧
    (({} : Settings).namePrefix.Settled ∧ SafePrefix ({} : Settings).namePrefix) ∧
    PlainEnding ({} : Settings).nameSuffix := by
  refine ⟨?_, ⟨by decide +kernel, by decide +kernel⟩, by decide +kernel⟩
  intro s category raw scope o n hp hsafe hsuffix hcategory ho hn
  cases category with
  | className =>
    have hagain : s.name .className (.text n.name) scope o = _ := className_again hp hsuffix ho hn
    simpa using hagain
  | operationName => exact keywordLed_again _ hp hsafe hn
  | attributeName => exact attributeName_again hp hn
  | constantName => exact keywordLed_again _ hp hsafe hn
  | typeName => exact absurd rfl hcategory

/-- The class `class` is called `classCustom2` where `classCustom` is taken, and the class
    `classCustom2` is called so as well. -/
theorem name_again_class :
    let o := Occupancy.ofList ["App\\classCustom"]
    (({} : Settings).namePrefix.Settled ∧ SafePrefix ({} : Settings).namePrefix ∧
      PlainEnding ({} : Settings).nameSuffix ∧ o.Stateless) ∧
    ∃ n, ({} : Settings).name .className (.text "class") (some "App") o = .ok n ∧
      n.name = "classCustom2" ∧
      ({} : Settings).name .className (.text n.name) (some "App") o = .ok
        { name := "classCustom2", asked := ["App\\classCustom2"], rename := none } := by
  intro o
  obtain ⟨hagain, ⟨hsettled, hsafe⟩, hsuffix⟩ := name_again
  have ho : o.Stateless := fun _ _ _ => rfl
  have hn : ({} : Settings).name .className (.text "class") (some "App") o = .ok
      { name := "classCustom2"
        asked := ["App\\classCustom", "App\\classCustom2"]
        tried := 3
        rename := some ⟨"类名", "class", "classCustom2"⟩ } := rfl
  refine ⟨⟨hsettled, hsafe, hsuffix, ho⟩, _, hn, rfl, ?_⟩
  exact hagain {} .className _ _ o _ hsettled hsafe hsuffix (by decide) ho hn

end Stability

end SchemaNaming
