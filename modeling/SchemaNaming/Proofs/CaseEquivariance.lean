import SchemaNaming.Proofs.CaseVariant
import SchemaNaming.Proofs.Refusal
import SchemaNaming.Proofs.RegistryWalk

namespace SchemaNaming

/-!
# Names of variants

A schema may spell a name in one case here and in another one there.  All ways to give names treat
such spellings alike: they refuse both, or give both names that differ in case only.  A class asks
which names are taken; if the answers do not depend on case either, both walks stop at the same
candidate.

* `Alike` — both answers are refusals of variants, or the names that are given are related;
* `Walk.CaseVariant` — two walks that take the same decisions;
* `CaseBlind` — whether a name is taken does not depend on its case;
* `names_of_variants` — all ways to give names answer alike for variants.
-/

open Text (CaseVariant)

/-! ### Answers -/

/-- Two answers refuse variants since nothing is left of them, or both give something, and what they
    give is related. -/
inductive Alike {α : Type} (R : α → α → Prop) : Except Refusal α → Except Refusal α → Prop
  | refused {x y : Text} (h : x.CaseVariant y) :
      Alike R (.error (.emptyIdentifier (.text x))) (.error (.emptyIdentifier (.text y)))
  | given {a b : α} (h : R a b) : Alike R (.ok a) (.ok b)

/-- The names differ in case only, and so do the questions that were asked before they were found.
    As many candidates were looked at. -/
structure Named.CaseVariant (n n' : Named) : Prop where
  name : n.name.CaseVariant n'.name
  asked : List.Forall₂ Text.CaseVariant n.asked n'.asked
  tried : n.tried = n'.tried

/-- Names that are given without a question are variants if their texts are. -/
theorem Named.caseVariant_of_name {t u : Text} (h : t.CaseVariant u)
    (rename rename' : Option Rename) :
    Named.CaseVariant { name := t, rename } { name := u, rename := rename' } where
  name := h
  asked := .nil
  tried := rfl

/-- Answers that are alike stay so when related things are made of them. -/
theorem Alike.map {α β : Type} {R : α → α → Prop} {S : β → β → Prop} {a b : Except Refusal α}
    {f g : α → β} (h : Alike R a b) (hfg : ∀ x y, R x y → S (f x) (g y)) :
    Alike S (a.map f) (b.map g) := by
  cases h with
  | refused hxy => exact .refused hxy
  | given hab => exact .given (hfg _ _ hab)

section Names

variable {x y : Text} (hxy : x.CaseVariant y) (s : Settings)
include hxy

/-- Variants have variants as their normal forms, unless nothing is left of either. -/
theorem alike_normalize (p : Text) :
    Alike CaseVariant ((RawValue.text x).normalize p) ((RawValue.text y).normalize p) := by
  have hforms := hxy.normalForm p
  unfold RawValue.normalize
  by_cases hx : (RawValue.text x).toText.normalForm p = []
  · have hy : (RawValue.text y).toText.normalForm p = [] := hforms.eq_nil_iff.mp hx
    rw [if_pos hx, if_pos hy]
    exact .refused hxy
  · have hy : (RawValue.text y).toText.normalForm p ≠ [] := fun h => hx (hforms.eq_nil_iff.mpr h)
    rw [if_neg hx, if_neg hy]
    exact .given hforms

/-- Attributes that are spelled alike are named alike. -/
theorem alike_attributeName :
    Alike Named.CaseVariant (s.attributeName (.text x)) (s.attributeName (.text y)) := by
  rw [s.attributeName_eq_map, s.attributeName_eq_map]
  exact (alike_normalize hxy _).map fun _ _ h => Named.caseVariant_of_name h none none

/-- Both normal forms are keywords, and are led by the prefix, or neither is. -/
theorem alike_keywordLed (kind : Text) :
    Alike Named.CaseVariant (s.keywordLed kind (.text x)) (s.keywordLed kind (.text y)) := by
  rw [s.keywordLed_eq_map, s.keywordLed_eq_map]
  refine (alike_normalize hxy _).map fun t u h => ?_
  unfold Settings.ledName
  rw [h.isKeyword_eq]
  split
  · exact Named.caseVariant_of_name ((CaseVariant.refl _).append h.capitalize) _ _
  · exact Named.caseVariant_of_name h none none

/-- Both types are arrays, or both are the same built-in type, or both are named like classes. -/
theorem alike_typeName :
    Alike Named.CaseVariant (s.typeName (.text x)) (s.typeName (.text y)) := by
  have hmark : ∀ c ∈ arrayMark, c.isAsciiLetter = false := by decide
  by_cases hx : arrayMark <:+ x
  · obtain ⟨element, rfl⟩ := hx
    obtain ⟨element', rfl, helement⟩ := CaseVariant.exists_append hxy.symm hmark
    have hnamed : ∀ element : Text, s.typeName (.text (element ++ arrayMark)) =
        ((RawValue.text element).normalize s.namePrefix).map fun name =>
          { name := name ++ arrayMark } := fun _ => s.typeName_of_array rfl
    rw [hnamed, hnamed]
    refine (alike_normalize helement.symm _).map fun t u h => ?_
    exact Named.caseVariant_of_name (h.append (.refl arrayMark)) none none
  · have hy : ¬ arrayMark <:+ y := by
      rintro ⟨element, rfl⟩
      obtain ⟨element', rfl, _⟩ := CaseVariant.exists_append hxy hmark
      exact hx (List.suffix_append _ _)
    have hx' : ¬ arrayMark <:+ (RawValue.text x).toText := hx
    have hy' : ¬ arrayMark <:+ (RawValue.text y).toText := hy
    have hbuiltin := hxy.builtinType?_eq
    cases hb : x.builtinType? with
    | some b =>
      rw [s.typeName_of_builtin hx' hb, s.typeName_of_builtin hy' (hbuiltin.symm.trans hb)]
      exact .given (Named.caseVariant_of_name (.refl b) none none)
    | none =>
      rw [s.typeName_of_generated hx' hb, s.typeName_of_generated hy' (hbuiltin.symm.trans hb)]
      refine (alike_normalize hxy _).map fun t u h => ?_
      unfold Settings.suffixedName
      rw [h.isKeyword_eq]
      split
      · exact Named.caseVariant_of_name (h.append (.refl _)) _ _
      · exact Named.caseVariant_of_name h none none

end Names

/-! ### Walks -/

/-- Two walks along variants take the same decisions about variants. -/
structure Walk.CaseVariant (w w' : Walk) : Prop where
  answered : w.answer?.isSome = w'.answer?.isSome
  base : w.base.CaseVariant w'.base
  suffix : w.suffix = w'.suffix
  reserved : ∀ t u, t.CaseVariant u → w.reserved t = w'.reserved u
  asks : ∀ t u, t.CaseVariant u → (w.asks t).CaseVariant (w'.asks u)
  taken : ∀ asked asked' t u, t.CaseVariant u → w.taken asked t = w'.taken asked' u

namespace Walk.CaseVariant

variable {w w' : Walk} (h : w.CaseVariant w')
include h

/-- The candidates on the two walks are variants. -/
theorem nth (i : Nat) : (w.nth i).CaseVariant (w'.nth i) := by
  show (candidate w.base w.suffix i).CaseVariant (candidate w'.base w'.suffix i)
  rw [candidate_eq_append, candidate_eq_append, h.suffix]
  exact h.base.append (.refl _)

/-- Both walks go past the same candidates. -/
theorem passes_iff (i : Nat) : w.Passes i ↔ w'.Passes i := by
  unfold Passes
  rw [h.reserved _ _ (h.nth i), h.taken _ _ _ _ (h.asks _ _ (h.nth i))]

/-- The same candidates are asked about. -/
theorem questions (i : Nat) :
    List.Forall₂ Text.CaseVariant (w.questions i) (w'.questions i) := by
  cases hask : w.answer?.isSome with
  | false =>
    have hask' : w'.answer?.isSome = false := h.answered.symm.trans hask
    rw [w.questions_of_not_answered hask, w'.questions_of_not_answered hask']
    exact .nil
  | true =>
    have hask' : w'.answer?.isSome = true := h.answered.symm.trans hask
    induction i with
    | zero =>
      rw [questions_zero, questions_zero]
      exact .nil
    | succ i ih =>
      have hreserved := h.reserved _ _ (h.nth i)
      cases hres : w.reserved (w.nth i) with
      | true =>
        rw [w.questions_succ_of_reserved hres,
          w'.questions_succ_of_reserved (hreserved.symm.trans hres)]
        exact ih
      | false =>
        rw [w.questions_succ_of_not_reserved hask hres,
          w'.questions_succ_of_not_reserved hask' (hreserved.symm.trans hres)]
        exact List.rel_append ih (.cons (h.asks _ _ (h.nth i)) .nil)

end Walk.CaseVariant

/-! ### Classes -/

/-- Whether a name is taken depends on the name alone, and not on its case. -/
def CaseBlind (taken : Text → Bool) : Prop := ∀ t u : Text, t.CaseVariant u → taken t = taken u

/-- A registry that was told not to mind case does not depend on it. -/
theorem caseBlind_contains {r : Registry} (hr : r.caseSensitive = false) : CaseBlind r.contains := by
  intro t u h
  have hkey : ∀ t, r.key t = t.lower := by
    intro t
    rw [Registry.key, hr]
    rfl
  rw [Bool.eq_iff_iff, Registry.contains_iff, Registry.contains_iff, hkey, hkey, h.lower_eq]

section Classes

variable {x y : Text} (hxy : x.CaseVariant y) (s : Settings) (scope : Option Text)
  {o : Occupancy} {taken : Text → Bool} (htaken : CaseBlind taken)
  (ho : ∀ asked, o.taken asked = taken)
include hxy htaken ho

/-- Answers that do not depend on case refuse variants alike, or let both walks stop at the same
    candidate, or let neither stop in reach. -/
theorem className_of_variants :
    Alike Named.CaseVariant (s.className (.text x) scope o) (s.className (.text y) scope o) ∨
      s.className (.text x) scope o = .error (.noFreeCandidate o.reach) ∧
      s.className (.text y) scope o = .error (.noFreeCandidate o.reach) := by
  have hforms := alike_normalize hxy s.namePrefix
  generalize hx : (RawValue.text x).normalize s.namePrefix = form at hforms
  generalize hy : (RawValue.text y).normalize s.namePrefix = form' at hforms
  cases hforms with
  | refused h =>
    left
    rw [Settings.className_of_normalize_error scope o hx,
      Settings.className_of_normalize_error scope o hy]
    exact .refused h
  | @given base base' h =>
    have hwalks : (s.classWalk base scope o).CaseVariant (s.classWalk base' scope o) := by
      refine ⟨rfl, h, rfl, fun t u htu => htu.isKeyword_eq, fun t u htu => ?_,
        fun asked asked' t u htu => ?_⟩
      · show (qualify scope ([] ++ t)).CaseVariant (qualify scope ([] ++ u))
        rw [qualify_append, qualify_append]
        exact (CaseVariant.refl _).append htu
      · show o.taken asked t = o.taken asked' u
        rw [ho, ho, htaken t u htu]
    -- both walks stop at the same candidate, or neither stops in reach
    rcases (s.classWalk base scope o).stopsAt_or_passes o.reach with ⟨m, hm, hstops⟩ | hpass
    · left
      have hstops' := (Walk.stopsAt_congr hwalks.passes_iff m).mp hstops
      rw [Settings.className_of_stopsAt hx hm hstops, Settings.className_of_stopsAt hy hm hstops']
      exact .given ⟨hwalks.nth m, hwalks.questions (m + 1), rfl⟩
    · right
      have hpass' := fun i hi => (hwalks.passes_iff i).mp (hpass i hi)
      exact ⟨Settings.className_of_passes hx hpass, Settings.className_of_passes hy hpass'⟩

/-- If nothing but an empty normal form is refused for one of them, both are answered alike. -/
theorem alike_className_of_refusesExactly
    (h : s.RefusesExactly (.text x) (.text x) (s.className (.text x) scope o)) :
    Alike Named.CaseVariant (s.className (.text x) scope o) (s.className (.text y) scope o) := by
  apply (className_of_variants hxy s scope htaken ho).resolve_right
  rintro ⟨hnone, _⟩
  exact nomatch ((h _).mp hnone).2

end Classes

/-- The walk past a registry ends in reach, so a class is refused for want of an identifier only. -/
theorem refusesExactly_className_ofRegistry (s : Settings) (raw : RawValue) (scope : Option Text)
    (r : Registry) : s.RefusesExactly raw raw (s.className raw scope (.ofRegistry r)) := by
  apply Settings.refusesExactly_className
  intro base _
  obtain ⟨m, hm, hstops⟩ := exists_stopsAt_ofRegistry s scope r base
  exact ⟨m, hm, hstops.stops⟩

/-- **Names of variants.**  All ways to give names answer alike for two texts that differ in the case
    of ASCII letters only, whatever the settings are: they refuse both since nothing is left of them,
    or give names that differ in this way only.  A class is found at the same candidate for both,
    after questions that differ in this way only, if the answers depend on the questions alone and not
    on their case; neither is found if the answers let the walks go on for ever.  A registry that was
    told not to mind case gives such answers, and lets all walks end. -/
theorem names_of_variants (s : Settings) {x y : Text} (hxy : x.CaseVariant y) :
    Alike Named.CaseVariant (s.attributeName (.text x)) (s.attributeName (.text y)) ∧
    Alike Named.CaseVariant (s.operationName (.text x)) (s.operationName (.text y)) ∧
    Alike Named.CaseVariant (s.constantName (.text x)) (s.constantName (.text y)) ∧
    Alike Named.CaseVariant (s.typeName (.text x)) (s.typeName (.text y)) ∧
    (∀ scope taken, CaseBlind taken →
      (∀ size,
        let o : Occupancy := ⟨some fun _ => taken, size⟩
        Alike Named.CaseVariant (s.className (.text x) scope o) (s.className (.text y) scope o) ∨
          s.className (.text x) scope o = .error (.noFreeCandidate o.reach) ∧
          s.className (.text y) scope o = .error (.noFreeCandidate o.reach)) ∧
      (s.EventuallyFree (.text x) scope (fun _ => taken) →
        ∃ bound, ∀ size, bound ≤ size →
          let o : Occupancy := ⟨some fun _ => taken, size⟩
          Alike Named.CaseVariant (s.className (.text x) scope o)
            (s.className (.text y) scope o))) ∧
    (∀ scope, Alike Named.CaseVariant (s.className (.text x) scope .free)
      (s.className (.text y) scope .free)) ∧
    ∀ scope r, r.caseSensitive = false →
      Alike Named.CaseVariant (s.className (.text x) scope (.ofRegistry r))
        (s.className (.text y) scope (.ofRegistry r)) := by
  refine ⟨alike_attributeName hxy s, alike_keywordLed hxy s _, alike_keywordLed hxy s _,
    alike_typeName hxy s, fun scope taken htaken =>
      ⟨fun _ => className_of_variants hxy s scope htaken fun _ => rfl, fun hfree => ?_⟩,
    fun scope => ?_, fun scope r hr => ?_⟩
  · obtain ⟨bound, hbound⟩ := Settings.exists_refusesExactly_className hfree
    exact ⟨bound, fun size hsize =>
      alike_className_of_refusesExactly hxy s scope htaken (fun _ => rfl) (hbound size hsize)⟩
  · -- where nobody is asked, no name is taken, in whatever case
    have hnone : CaseBlind fun _ => false := fun _ _ _ => rfl
    exact alike_className_of_refusesExactly hxy s scope hnone (fun _ => rfl)
      (Settings.refusesExactly_className_free scope)
  · exact alike_className_of_refusesExactly hxy s scope (caseBlind_contains hr) (fun _ => rfl)
      (refusesExactly_className_ofRegistry s _ scope r)

/-- The keyword `class` in two spellings: both classes have to give way to the name `classCUSTOM` in
    the namespace, however that is spelled, and both are found at the third candidate.  If it is the
    second candidate alone that is taken, both walks end, too. -/
theorem names_of_variants_class :
    let s : Settings := {}
    let x : Text := "clASS"
    let y : Text := "CLass"
    let r := Registry.ofList ["aΣ\\classCUSTOM"] false
    let taken (t : Text) : Bool := t.lower == ("classcustom" : Text)
    x.CaseVariant y ∧
    (Alike Named.CaseVariant (s.className (.text x) (some "AΣ") (.ofRegistry r))
        (s.className (.text y) (some "AΣ") (.ofRegistry r)) ∧
      (s.className (.text x) (some "AΣ") (.ofRegistry r)).map (fun n => (n.name, n.tried)) =
        .ok ("clASSCustom2", 3) ∧
      (s.className (.text y) (some "AΣ") (.ofRegistry r)).map (fun n => (n.name, n.tried)) =
        .ok ("CLassCustom2", 3)) ∧
    CaseBlind taken ∧ s.EventuallyFree (.text x) none (fun _ => taken) ∧
    ∃ size, Alike Named.CaseVariant (s.className (.text x) none ⟨some fun _ => taken, size⟩)
      (s.className (.text y) none ⟨some fun _ => taken, size⟩) := by
  intro s x y r taken
  have hxy : x.CaseVariant y := by decide +kernel
  obtain ⟨_, _, _, _, hclass, _, hregistry⟩ := names_of_variants s hxy
  have hblind : CaseBlind taken := by
    intro t u h
    simp only [taken, h.lower_eq]
  have hfree : s.EventuallyFree (.text x) none (fun _ => taken) := by
    intro base hbase
    have hform : (RawValue.text x).normalize s.namePrefix = .ok x := by decide +kernel
    obtain rfl : x = base := Except.ok.inj (hform.symm.trans hbase)
    refine ⟨2, ?_⟩
    rintro (hkeyword | htaken)
    · exact absurd hkeyword (by decide +kernel)
    · exact absurd htaken (by decide +kernel)
  obtain ⟨bound, hbound⟩ := (hclass none taken hblind).2 hfree
  exact ⟨hxy, ⟨hregistry (some "AΣ") r rfl, by decide +kernel, by decide +kernel⟩, hblind, hfree,
    bound, hbound bound (Nat.le_refl bound)⟩

end SchemaNaming
