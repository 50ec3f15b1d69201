import SchemaNaming.Proofs.Refusal
import SchemaNaming.Proofs.RegistryHistory
import SchemaNaming.Proofs.WalkLength
import SchemaNaming.Proofs.WordBreak

namespace SchemaNaming

/-!
# Walks past a registry

The candidates for a class have different keys, in either mode and in every namespace.  A registry
has finitely many keys and only the first two candidates may be keywords, so its walk comes to an
end within reach, and what a class is called does not depend on how far the reach goes.

* `Registry.keepsEndings_key` — keys keep apart what is put behind a name;
* `exists_stopsAt_ofRegistry` — the walk for a class stops within reach;
* `className_ofRegistry` — the class has the name at which the walk stops;
* `className_first_accepted` — this is the first accepted candidate, and few are asked about.
-/

/-- The namespace stands in front, so it does not matter what is put behind. -/
theorem qualify_append (scope : Option Text) (t u : Text) :
    qualify scope (t ++ u) = qualify scope t ++ u := by
  unfold qualify
  split
  · rfl
  · rfl
  · rw [← List.append_assoc]

namespace Registry

variable (r : Registry) (scope : Option Text)

/-- A number at the end of a name is at the end of its key. -/
theorem key_append_ofNat (t : Text) (n : Nat) :
    r.key (t ++ Text.ofNat n) = r.key t ++ Text.ofNat n := by
  unfold key
  split
  · rfl
  · exact Text.lower_append_digits t (Text.isAsciiDigit_of_mem_ofNat n)

/-- What is put behind a name lengthens its key. -/
theorem length_key_lt (t : Text) {u : Text} (hu : u ≠ []) :
    (r.key t).length < (r.key (t ++ u)).length := by
  unfold key
  split
  · have := List.length_pos_iff.mpr hu
    rw [List.length_append]
    omega
  · have := List.length_pos_iff.mpr (mt Text.lower_eq_nil_iff.mp hu)
    rw [Text.length_lower_append]
    omega

/-- **Keys of endings.**  Keys keep apart what is put behind a name, whatever the mode and the
    namespace. -/
theorem keepsEndings_key : KeepsEndings fun name => r.key (qualify scope name) where
  length_lt t u hu := by
    rw [qualify_append]
    exact r.length_key_lt _ hu
  append_ofNat t n := by
    rw [qualify_append]
    exact r.key_append_ofNat _ n

end Registry

/-! ### Classes -/

section Classes

variable (s : Settings) (scope : Option Text) (r : Registry)

/-- Candidates for a class are told apart by their keys in the registry. -/
theorem keyed_classWalk (base : Text) :
    (s.classWalk base scope (.ofRegistry r)).Keyed r.key r.keys where
  answered := rfl
  injective := (r.keepsEndings_key scope).candidate_injective base s.nameSuffix
  mem _ question htaken := (r.contains_iff question).mp htaken

/-- The walk for a class stops within reach. -/
theorem exists_stopsAt_ofRegistry (base : Text) : ∃ m < (Occupancy.ofRegistry r).reach,
    (s.classWalk base scope (.ofRegistry r)).StopsAt m := by
  obtain ⟨m, hm, hstops⟩ := (keyed_classWalk s scope r base).exists_stopsAt
    fun _ hi => not_isKeyword_candidate base s.nameSuffix hi
  have hreach : (Occupancy.ofRegistry r).reach = r.keys.length + 3 := rfl
  exact ⟨m, by omega, hstops⟩

variable {s scope r} {raw : RawValue} {base : Text}

/-- **Classes and registries.**  A class has the name of the candidate at which the walk stops, and
    no reach is too short for it. -/
theorem className_ofRegistry (hbase : raw.normalize s.namePrefix = .ok base) {m : Nat}
    (hstops : (s.classWalk base scope (.ofRegistry r)).StopsAt m) :
    s.className raw scope (.ofRegistry r) = .ok (s.classNamed base scope (.ofRegistry r) m) := by
  obtain ⟨m', hlt, hstops'⟩ := exists_stopsAt_ofRegistry s scope r base
  obtain rfl := hstops.unique hstops'
  exact Settings.className_of_stopsAt hbase hlt hstops

/-- The walk past a registry ends, so a class that is refused is refused at once. -/
theorem isImmediate_of_className_ofRegistry {refusal : Refusal}
    (h : s.className raw scope (.ofRegistry r) = .error refusal) : refusal.IsImmediate := by
  rcases (s.className_eq_error_iff raw scope _ refusal).mp h with hform | ⟨base, _, hpass, _⟩
  · rw [((RawValue.normalize_eq_error_iff raw _ refusal).mp hform).2]
    exact nofun
  · obtain ⟨m, hm, hstops⟩ := exists_stopsAt_ofRegistry s scope r base
    exact absurd (hpass m hm) hstops.stops

/-- The candidate may name a class in the namespace: it is no keyword, and its qualified name is not
    declared. -/
def Registry.Accepts (r : Registry) (scope : Option Text) (name : Text) : Prop :=
  name.isKeyword = false ∧ r.contains (qualify scope name) = false

/-- A search has given the `m`-th candidate, counted from zero, since it is the first one that the
    registry accepts. -/
structure FirstAccepted (r : Registry) (scope : Option Text) (base suffix : Text) (m : Nat)
    (n : Named) : Prop where
  name : n.name = candidate base suffix m
  accepts : r.Accepts scope (candidate base suffix m)
  passed : ∀ i < m, ¬ r.Accepts scope (candidate base suffix i)
  tried : n.tried = m + 1
  /-- The registry was asked about the qualified names of all candidates that are no keywords. -/
  asked : n.asked = (((List.range (m + 1)).map (candidate base suffix)).filter
    fun name => !name.isKeyword).map (qualify scope)

/-- The walk passes what the registry does not accept. -/
theorem passes_iff_not_accepts (base : Text) (i : Nat) :
    (s.classWalk base scope (.ofRegistry r)).Passes i ↔
      ¬ r.Accepts scope (candidate base s.nameSuffix i) := by
  show (candidate base s.nameSuffix i).isKeyword = true ∨
    r.contains (qualify scope (candidate base s.nameSuffix i)) = true ↔ _
  rw [Registry.Accepts, not_and_or, Bool.not_eq_false, Bool.not_eq_false]

/-- The candidate at which the walk stops is the first one that the registry accepts. -/
theorem firstAccepted_classNamed {m : Nat}
    (hstops : (s.classWalk base scope (.ofRegistry r)).StopsAt m) :
    FirstAccepted r scope base s.nameSuffix m (s.classNamed base scope (.ofRegistry r) m) where
  name := rfl
  accepts := by simpa only [passes_iff_not_accepts, not_not] using hstops.stops
  passed i hi := (passes_iff_not_accepts base i).mp (hstops.passes i hi)
  tried := rfl
  asked := rfl

/-- **The first accepted candidate.**  Whatever a registry holds after any history, a class is found
    unless nothing is left of its name, and it has the first candidate that is no keyword and not
    declared.  At most three candidates more are tried than there are keys, and at most one question
    more is asked, none of them twice.  So a reach that goes farther finds the same. -/
theorem className_first_accepted (s : Settings) (raw : RawValue) (scope : Option Text)
    (r : Registry) (hstart : s.namePrefix.HasStart ∨ raw.toText.HasStart) :
    ∃ base m n, raw.normalize s.namePrefix = .ok base ∧
      (∀ size, r.size ≤ size →
        s.className raw scope { Occupancy.ofRegistry r with size } = .ok n) ∧
      FirstAccepted r scope base s.nameSuffix m n ∧
      n.tried ≤ r.size + 3 ∧ n.asked.length ≤ r.size + 1 ∧ n.asked.Nodup := by
  obtain ⟨base, hbase⟩ := RawValue.exists_normalize_iff.mpr hstart
  have hkeyed := keyed_classWalk s scope r base
  obtain ⟨m, hm, hstops⟩ := exists_stopsAt_ofRegistry s scope r base
  have hreach : (Occupancy.ofRegistry r).reach = r.size + 3 := rfl
  -- all questions before the last one were answered by different keys of the registry
  have hquestions : _ ≤ r.size := hkeyed.length_questions_le hstops.passes
  have hlast := hstops.length_questions hkeyed.answered
  refine ⟨base, m, s.classNamed base scope (.ofRegistry r) m, hbase, fun size hsize => ?_,
    firstAccepted_classNamed hstops, ?_, ?_, (hkeyed.nodup_questions (m + 1)).of_map⟩
  · have hlt : m < Occupancy.reach { Occupancy.ofRegistry r with size } := by
      show m < size + 3
      omega
    -- how far the reach goes makes no difference to what the walk goes past
    exact Settings.className_of_stopsAt hbase hlt ⟨hstops.passes, hstops.stops⟩
  · show m + 1 ≤ r.size + 3
    omega
  · show ((s.classWalk base scope (.ofRegistry r)).questions (m + 1)).length ≤ r.size + 1
    omega

/-- The keyword `list` in the namespace `App`, where `listCustom` was declared without regard to case
    and `listCustom2` with it, before the mode was switched back: only the former is still taken. -/
theorem className_first_accepted_list :
    let s : Settings := {}
    let r := (Registry.ofList ["app\\LISTCustom"] false).replay
      [.setCaseSensitive true, .declare "App\\listCustom2", .setCaseSensitive false]
    Text.HasStart "list" ∧
    ∃ n, s.className (.text "list") (some "App") (.ofRegistry r) = .ok n ∧
      n.name = "listCustom2" ∧ n.tried ≤ 5 ∧ n.asked.length ≤ 3 ∧ n.asked.Nodup := by
  intro s r
  have hstart : Text.HasStart "list" := by decide +kernel
  have hfound : (s.className (.text "list") (some "App") (.ofRegistry r)).map (·.name) =
      .ok "listCustom2" := by decide +kernel
  obtain ⟨_, _, n, _, hclass, _, htried, hasked, hnodup⟩ :=
    className_first_accepted s (.text "list") (some "App") r (Or.inr hstart)
  have hn := hclass r.size (Nat.le_refl _)
  refine ⟨hstart, n, hn, ?_, htried, hasked, hnodup⟩
  obtain ⟨n', hn', hname⟩ := map_eq_ok_iff.mp hfound
  obtain rfl : n' = n := Except.ok.inj (hn'.symm.trans hn)
  exact hname

end Classes

end SchemaNaming
