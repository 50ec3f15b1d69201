import SchemaNaming.Proofs.Naming
import SchemaNaming.Proofs.WalkLength

namespace SchemaNaming

/-!
# Unique names

A name is made unique by trying it again with a suffix and with numbers.  The attempts are numbered
in two schemes: without a suffix the second attempt has the number 2, while with one it has the
suffix alone, and only the third has the number 2.

* `attempt` — the name that is tried in each attempt;
* `FirstFreeAt` — the attempt that succeeds, for answers that may depend on the questions before;
* `uniqueName_of_firstFreeAt` — its name is given;
* `uniqueName_first_free` — the attempts are made in order, and no more of them than necessary.
-/

/-- The name that is tried in the `i`-th attempt, counted from one. -/
def attempt (base : Text) (suffix : Option Text) (i : Nat) : Text :=
  match suffix with
  | none | some [] => if i = 1 then base else base ++ Text.ofNat i
  | some suffix =>
    if i = 1 then base
    else if i = 2 then base ++ suffix
    else base ++ suffix ++ Text.ofNat (i - 1)

/-- The names that are tried in the first `m` attempts. -/
def attempts (base : Text) (suffix : Option Text) (m : Nat) : List Text :=
  (List.range' 1 m).map (attempt base suffix)

/-- The `i`-th attempt is answered free, after the questions of those before it. -/
def FoundFree (taken : List Text → Text → Bool) (base : Text) (suffix : Option Text) (i : Nat) :
    Prop :=
  taken (attempts base suffix (i - 1)).reverse (attempt base suffix i) = false

instance (taken : List Text → Text → Bool) (base : Text) (suffix : Option Text) (i : Nat) :
    Decidable (FoundFree taken base suffix i) :=
  inferInstanceAs (Decidable (_ = false))

/-- The `m`-th attempt is the first one that is answered free. -/
structure FirstFreeAt (taken : List Text → Text → Bool) (base : Text) (suffix : Option Text)
    (m : Nat) : Prop where
  pos : 1 ≤ m
  free : FoundFree taken base suffix m
  earlier : ∀ i, 1 ≤ i → i < m → ¬ FoundFree taken base suffix i

/-- What is found by asking about the names of the first `m` attempts, once each and in order. -/
def foundAfter (base : Text) (suffix : Option Text) (m : Nat) : Named where
  name := attempt base suffix m
  asked := attempts base suffix m
  tried := m

variable (base : Text) (suffix : Option Text)

/-! ### Attempts and candidates -/

/-- Candidates are counted from zero, and have no suffix or an empty one alike. -/
theorem attempt_succ (i : Nat) :
    attempt base suffix (i + 1) = candidate base (suffix.getD []) i := by
  unfold attempt candidate
  -- the patterns of `attempt` tell an empty suffix from others
  match suffix with
  | none => simp
  | some [] => simp
  | some (c :: rest) => simp

/-- The attempts are made along the candidates. -/
theorem attempts_eq (m : Nat) :
    attempts base suffix m = (List.range m).map (candidate base (suffix.getD [])) := by
  rw [attempts, List.range'_eq_map_range, List.map_map]
  apply List.map_congr_left
  intro i _
  show attempt base suffix (1 + i) = _
  rw [Nat.add_comm, attempt_succ]

/-- The names of different attempts are different. -/
theorem attempt_injective {i j : Nat} (hi : 1 ≤ i) (hj : 1 ≤ j)
    (h : attempt base suffix i = attempt base suffix j) : i = j := by
  obtain ⟨i, rfl⟩ := Nat.exists_eq_add_of_le' hi
  obtain ⟨j, rfl⟩ := Nat.exists_eq_add_of_le' hj
  rw [attempt_succ, attempt_succ] at h
  have := keepsEndings_id.candidate_injective base (suffix.getD []) h
  omega

/-! ### The walk -/

variable (taken : List Text → Text → Bool) (size : Nat)

/-- The walk asks about the names of the attempts. -/
theorem questions_uniqueWalk (m : Nat) :
    (uniqueWalk base suffix ⟨some taken, size⟩).questions m = attempts base suffix m := by
  rw [attempts_eq]
  simp [Walk.questions, Walk.nth, uniqueWalk]

/-- The walk does not go past an attempt that is answered free. -/
theorem not_passes_uniqueWalk_iff (i : Nat) :
    ¬ (uniqueWalk base suffix ⟨some taken, size⟩).Passes i ↔
      FoundFree taken base suffix (i + 1) := by
  rw [Walk.Passes, questions_uniqueWalk, FoundFree, attempt_succ]
  simp [uniqueWalk, Walk.nth, Occupancy.taken]

/-- The walk stops at the first attempt that is answered free. -/
theorem stopsAt_uniqueWalk_iff (m : Nat) :
    (uniqueWalk base suffix ⟨some taken, size⟩).StopsAt m ↔
      FirstFreeAt taken base suffix (m + 1) := by
  constructor
  · intro h
    refine ⟨by omega, (not_passes_uniqueWalk_iff ..).mp h.stops, fun i hi hlt hfree => ?_⟩
    obtain ⟨i, rfl⟩ := Nat.exists_eq_add_of_le' hi
    exact (not_passes_uniqueWalk_iff ..).mpr hfree (h.passes i (by omega))
  · intro h
    refine ⟨fun i hi => ?_, (not_passes_uniqueWalk_iff ..).mpr h.free⟩
    by_contra hstop
    exact h.earlier (i + 1) (by omega) (by omega) ((not_passes_uniqueWalk_iff ..).mp hstop)

/-- What the walk has found is what the attempts have. -/
theorem foundAt_uniqueWalk (m : Nat) :
    (uniqueWalk base suffix ⟨some taken, size⟩).foundAt m =
      (foundAfter base suffix (m + 1)).toFound := by
  rw [Walk.foundAt, questions_uniqueWalk, foundAfter, attempt_succ]
  rfl

/-- Names in a list are told apart by themselves, and no name counts twice in it. -/
theorem keyed_uniqueWalk (names : List Text) :
    (uniqueWalk base suffix (.ofList names)).Keyed id names.dedup where
  answered := rfl
  injective := keepsEndings_id.candidate_injective base (suffix.getD [])
  mem _ name htaken := by
    rw [List.mem_dedup]
    exact List.contains_iff_mem.mp htaken

variable {base suffix taken size}

/-- The name is given of the first attempt that is answered free, if that is in reach. -/
theorem uniqueName_of_firstFreeAt {m : Nat} (h : FirstFreeAt taken base suffix m)
    (hsize : m ≤ size + 3) :
    uniqueName base suffix ⟨some taken, size⟩ = .ok (foundAfter base suffix m) := by
  obtain ⟨m, rfl⟩ := Nat.exists_eq_add_of_le' h.pos
  have hstops := (stopsAt_uniqueWalk_iff base suffix taken size m).mpr h
  have hreach : m < Occupancy.reach ⟨some taken, size⟩ := by
    show m < size + 3
    omega
  have hgiven := (Act.goesBy_uniqueName_of_stopsAt {} hreach hstops).observed_eq
  rw [foundAt_uniqueWalk] at hgiven
  exact hgiven

/-- An attempt that is answered free comes with a first one. -/
theorem exists_firstFreeAt {i : Nat} (hi : 1 ≤ i) (h : FoundFree taken base suffix i) :
    ∃ m ≤ i, FirstFreeAt taken base suffix m := by
  obtain ⟨i, rfl⟩ := Nat.exists_eq_add_of_le' hi
  have hstop := (not_passes_uniqueWalk_iff base suffix taken 0 i).mpr h
  obtain ⟨m, hm, hstops⟩ := Walk.exists_stopsAt_of_not_passes _ hstop
  exact ⟨m + 1, by omega, (stopsAt_uniqueWalk_iff ..).mp hstops⟩

/-- A name is answered free if it is not in the list, whatever was asked before. -/
theorem foundFree_ofList_iff (names : List Text) (i : Nat) :
    FoundFree (Occupancy.ofList names).taken base suffix i ↔ attempt base suffix i ∉ names := by
  show names.contains _ = false ↔ _
  simp

/-- An attempt succeeds as soon as there are more of them than names in the list. -/
theorem exists_firstFreeAt_ofList (names : List Text) :
    ∃ m ≤ names.toFinset.card + 1, FirstFreeAt (Occupancy.ofList names).taken base suffix m := by
  obtain ⟨m, hm, hstops⟩ := (keyed_uniqueWalk base suffix names).exists_stopsAt (k := 0)
    fun _ _ => rfl
  have hcard : names.dedup.length = names.toFinset.card := rfl
  exact ⟨m + 1, by omega, (stopsAt_uniqueWalk_iff ..).mp hstops⟩

/-- **Unique names.**  Whatever the answers depend on, as soon as one of the attempts is answered free,
    the name of the first such attempt is given, and the names up to it are what was asked, once each
    and in order; a reach that goes farther makes no difference.  The names of different attempts are
    different.  So if it is the names in a list that are taken, at most one question more is asked
    than there are names, and the first attempt outside the list succeeds. -/
theorem uniqueName_first_free (base : Text) (suffix : Option Text) :
    (∀ taken, (∃ i, 1 ≤ i ∧ FoundFree taken base suffix i) →
      ∃ m, FirstFreeAt taken base suffix m ∧ ∀ size, m ≤ size + 3 →
        uniqueName base suffix ⟨some taken, size⟩ = .ok (foundAfter base suffix m)) ∧
    (∀ i j, 1 ≤ i → 1 ≤ j → attempt base suffix i = attempt base suffix j → i = j) ∧
    ∀ names : List Text, ∃ m,
      uniqueName base suffix (.ofList names) = .ok (foundAfter base suffix m) ∧
      (foundAfter base suffix m).asked.length ≤ names.toFinset.card + 1 ∧
      (1 ≤ m ∧ attempt base suffix m ∉ names) ∧
      ∀ i, 1 ≤ i → i < m → attempt base suffix i ∈ names := by
  refine ⟨fun taken ⟨i, hi, hfree⟩ => ?_, fun i j => attempt_injective base suffix,
    fun names => ?_⟩
  · obtain ⟨m, _, hfirst⟩ := exists_firstFreeAt hi hfree
    exact ⟨m, hfirst, fun size => uniqueName_of_firstFreeAt hfirst⟩
  · obtain ⟨m, hm, hfirst⟩ := @exists_firstFreeAt_ofList base suffix names
    have hcard : names.toFinset.card ≤ names.length := names.toFinset_card_le
    refine ⟨m, uniqueName_of_firstFreeAt hfirst (by omega), ?_,
      ⟨hfirst.pos, (foundFree_ofList_iff names m).mp hfirst.free⟩, fun i hi hlt => ?_⟩
    · simpa [foundAfter, attempts] using hm
    · have htaken := hfirst.earlier i hi hlt
      rwa [foundFree_ofList_iff, not_not] at htaken

/-- Two questions about `Foo` are answered taken, whatever they are: the third attempt has the suffix
    and the number 2.  Without a suffix it has the number 3, which is needed if `Foo` and `Foo2` are
    taken. -/
theorem uniqueName_first_free_foo :
    (FoundFree (Occupancy.first 2).taken "Foo" (some "Custom") 3 ∧
      ∃ m, FirstFreeAt (Occupancy.first 2).taken "Foo" (some "Custom") m ∧
        uniqueName "Foo" (some "Custom") (.first 2) = .ok (foundAfter "Foo" (some "Custom") m) ∧
        attempt "Foo" (some "Custom") m = "FooCustom2") ∧
    attempt "Foo" none 2 ≠ attempt "Foo" none 3 ∧
    ∃ n, uniqueName "Foo" none (.ofList ["Foo", "Foo2", "Foo"]) = .ok n ∧ n.name = "Foo3" ∧
      n.asked.length ≤ 3 := by
  obtain ⟨hfree, _⟩ := uniqueName_first_free "Foo" (some "Custom")
  obtain ⟨_, hdiffer, hlist⟩ := uniqueName_first_free "Foo" none
  have hthird : FoundFree (Occupancy.first 2).taken "Foo" (some "Custom") 3 := by decide +kernel
  obtain ⟨m, hfirst, hgiven⟩ := hfree _ ⟨3, by omega, hthird⟩
  have hm : m ≤ 3 := by
    by_contra hlt
    exact hfirst.earlier 3 (by omega) (by omega) hthird
  have hcount : (uniqueName "Foo" (some "Custom") (.first 2)).map (·.name) = .ok "FooCustom2" := by
    decide +kernel
  have htwo : (uniqueName "Foo" none (.ofList ["Foo", "Foo2", "Foo"])).map (·.name) =
      .ok "Foo3" := by decide +kernel
  obtain ⟨k, hk, hlength, _⟩ := hlist ["Foo", "Foo2", "Foo"]
  have hgiven2 : uniqueName "Foo" (some "Custom") (.first 2) = _ := hgiven 2 (by omega)
  rw [hgiven2] at hcount
  rw [hk] at htwo
  refine ⟨⟨hthird, m, hfirst, hgiven2, Except.ok.inj hcount⟩, fun h => ?_, _, hk,
    Except.ok.inj htwo, hlength⟩
  exact absurd (hdiffer 2 3 (by omega) (by omega) h) (by omega)

end SchemaNaming
