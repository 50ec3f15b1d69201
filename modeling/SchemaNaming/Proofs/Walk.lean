import SchemaNaming.Proofs.Act

namespace SchemaNaming

/-!
# Walks along candidates

A walk stops at the first candidate that is neither reserved nor taken.  Which questions it has
asked by then depends on the candidates before it only, so a walk that starts later, after these
questions, goes on as if it had started at the beginning.

* `ending` — what a candidate has behind the base;
* `Walk.questions` — the questions about the first candidates;
* `Walk.Passes` — a candidate is reserved, or found taken after the questions before it;
* `Walk.StopsAt` — the candidate is the first one that the walk does not go past;
* `Walk.run_firstFree_of_stopsAt`, `Walk.run_firstFree_of_passes` — a walk answers with the candidate
  at which it stops, or refuses after all candidates in reach; questions are all that it leaves.
-/

/-! ### Candidates -/

/-- What the `i`-th candidate has behind the base. -/
def ending (suffix : Text) (i : Nat) : Text :=
  if i = 0 then []
  else if suffix = [] then Text.ofNat (i + 1)
  else if i = 1 then suffix
  else suffix ++ Text.ofNat i

/-- Every candidate starts with the base. -/
theorem candidate_eq_append (base suffix : Text) (i : Nat) :
    candidate base suffix i = base ++ ending suffix i := by
  unfold candidate ending
  split
  · rw [List.append_nil]
  · split
    · rfl
    · split
      · rfl
      · rw [List.append_assoc]

/-- Every candidate but the first has something behind the base. -/
theorem ending_ne_nil (suffix : Text) {i : Nat} (hi : i ≠ 0) : ending suffix i ≠ [] := by
  unfold ending
  rw [if_neg hi]
  split
  · exact Text.ofNat_ne_nil (i + 1)
  · next hsuffix =>
    split
    · exact hsuffix
    · exact List.append_ne_nil_of_left_ne_nil hsuffix _

/-- No candidate but the first is the base itself. -/
theorem candidate_eq_base_iff (base suffix : Text) (i : Nat) :
    candidate base suffix i = base ↔ i = 0 := by
  constructor
  · intro h
    rw [candidate_eq_append, List.append_right_eq_self] at h
    exact Decidable.byContradiction fun hi => ending_ne_nil suffix hi h
  · rintro rfl
    exact candidate_zero base suffix

/-- The candidate behind the base itself has the suffix, if there is one. -/
theorem candidate_one (base : Text) {suffix : Text} (h : suffix ≠ []) :
    candidate base suffix 1 = base ++ suffix := by
  rw [candidate_eq_append, ending, if_neg Nat.one_ne_zero, if_neg h, if_pos rfl]

namespace Walk

variable (w : Walk)

/-- The `i`-th candidate, counted from zero. -/
def nth (i : Nat) : Text := candidate w.base w.suffix i

/-- The questions about the first `i` candidates, in order, if there is somebody to ask. -/
def questions (i : Nat) : List Text :=
  if w.answer?.isSome then
    (((List.range i).map w.nth).filter fun name => !w.reserved name).map w.asks
  else []

/-- The walk goes past the `i`-th candidate: it is reserved, or found taken. -/
def Passes (i : Nat) : Prop :=
  w.reserved (w.nth i) = true ∨ w.taken (w.questions i).reverse (w.asks (w.nth i)) = true

instance (i : Nat) : Decidable (w.Passes i) := inferInstanceAs (Decidable (_ ∨ _))

/-- The walk goes past all candidates before the `m`-th one, and stops there. -/
structure StopsAt (m : Nat) : Prop where
  passes : ∀ i < m, w.Passes i
  stops : ¬ w.Passes m

/-- What a walk finds that stops at the `m`-th candidate. -/
def foundAt (m : Nat) : Found where
  name := w.nth m
  asked := w.questions (m + 1)
  tried := m + 1

/-- A walk that does not go past all candidates stops at one of them. -/
theorem exists_stopsAt_of_not_passes {m : Nat} (h : ¬ w.Passes m) : ∃ i ≤ m, w.StopsAt i := by
  -- it stops at the first candidate that it does not go past
  induction m using Nat.strongRecOn with
  | ind m ih =>
    by_cases hbefore : ∃ j < m, ¬ w.Passes j
    · obtain ⟨j, hj, hstop⟩ := hbefore
      obtain ⟨i, hi, hstops⟩ := ih j hj hstop
      exact ⟨i, by omega, hstops⟩
    · have hpass : ∀ j < m, w.Passes j := fun j hj =>
        Classical.byContradiction fun hstop => hbefore ⟨j, hj, hstop⟩
      exact ⟨m, Nat.le_refl m, hpass, h⟩

/-- A walk stops at one candidate only. -/
theorem StopsAt.unique {w : Walk} {m m' : Nat} (h : w.StopsAt m) (h' : w.StopsAt m') : m = m' := by
  rcases Nat.lt_trichotomy m m' with hlt | heq | hgt
  · exact absurd (h'.passes m hlt) h.stops
  · exact heq
  · exact absurd (h.passes m' hgt) h'.stops

/-- The candidate at which a walk stops is not reserved, and was found free. -/
theorem StopsAt.free {w : Walk} {m : Nat} (h : w.StopsAt m) : w.reserved (w.nth m) = false ∧
    w.taken (w.questions m).reverse (w.asks (w.nth m)) = false := by
  have hstop := h.stops
  rwa [Passes, not_or, Bool.not_eq_true, Bool.not_eq_true] at hstop

/-- Two walks that go past the same candidates stop at the same one. -/
theorem stopsAt_congr {w w' : Walk} (h : ∀ i, w.Passes i ↔ w'.Passes i) (m : Nat) :
    w.StopsAt m ↔ w'.StopsAt m := by
  constructor
  · intro hstops
    exact ⟨fun i hi => (h i).mp (hstops.passes i hi), fun hm => hstops.stops ((h m).mpr hm)⟩
  · intro hstops
    exact ⟨fun i hi => (h i).mpr (hstops.passes i hi), fun hm => hstops.stops ((h m).mp hm)⟩

/-- A walk stops behind the base if it goes past the base itself. -/
theorem StopsAt.ne_zero_iff {w : Walk} {m : Nat} (h : w.StopsAt m) : m ≠ 0 ↔ w.Passes 0 := by
  constructor
  · intro hm
    exact h.passes 0 (Nat.pos_of_ne_zero hm)
  · rintro hpass rfl
    exact h.stops hpass

/-! ### Questions -/

@[simp] theorem questions_zero : w.questions 0 = [] := by simp [questions]

/-- The first question about the base is asked before all others. -/
theorem passes_zero_iff :
    w.Passes 0 ↔ w.reserved w.base = true ∨ w.taken [] (w.asks w.base) = true := by
  rw [Passes, questions_zero, nth, candidate_zero, List.reverse_nil]

/-- Where there is nobody to ask, nothing is asked. -/
theorem questions_of_not_answered (h : w.answer?.isSome = false) (i : Nat) : w.questions i = [] := by
  simp [questions, h]

/-- Nobody is asked about a reserved candidate. -/
theorem questions_succ_of_reserved {i : Nat} (h : w.reserved (w.nth i) = true) :
    w.questions (i + 1) = w.questions i := by
  simp [questions, List.range_succ, List.filter_append, h]

/-- Whoever there is to ask is asked about any other candidate. -/
theorem questions_succ_of_not_reserved (hask : w.answer?.isSome = true) {i : Nat}
    (h : w.reserved (w.nth i) = false) :
    w.questions (i + 1) = w.questions i ++ [w.asks (w.nth i)] := by
  simp [questions, hask, List.range_succ, List.filter_append, h]

/-! ### One step of a walk -/

variable (s : Session)

/-- The scene when a walk comes to the `i`-th candidate. -/
def sceneAt (i : Nat) : Scene :=
  { session := s, asked := (w.questions i).reverse, passed := i }

/-- The scene when it is known whether the `i`-th candidate is free. -/
def sceneAsked (i : Nat) : Scene :=
  { session := s, asked := (w.questions (i + 1)).reverse, passed := i }

/-- A candidate is found free if the walk does not go past it, and takes a question unless it is
    reserved. -/
theorem run_isFree (i : Nat) : (w.isFree (w.nth i)).run (w.sceneAt s i) =
    .ok (!decide (w.Passes i)) (w.sceneAsked s i) := by
  unfold isFree sceneAt sceneAsked
  by_cases hres : w.reserved (w.nth i) = true
  · simp [Passes, hres, questions_succ_of_reserved w hres]
  · rw [Bool.not_eq_true] at hres
    cases hanswer : w.answer? with
    | none =>
      have hsilent : w.answer?.isSome = false := by rw [hanswer, Option.isSome_none]
      simp [Passes, hres, Act.isTaken, Occupancy.taken, hanswer, questions_of_not_answered w hsilent]
    | some answer =>
      have hask : w.answer?.isSome = true := by rw [hanswer, Option.isSome_some]
      simp [Passes, hres, Act.isTaken, Occupancy.taken, hanswer,
        questions_succ_of_not_reserved w hask hres, -bind_pure_comp]

/-- **One step of a walk.**  A walk that goes past a candidate goes on behind it, and answers with the
    candidate otherwise. -/
theorem run_firstFreeFrom_succ (i count : Nat) :
    (w.firstFreeFrom i (count + 1)).run (w.sceneAt s i) =
      if w.Passes i then (w.firstFreeFrom (i + 1) count).run (w.sceneAt s (i + 1))
      else .ok (w.nth i) (w.sceneAsked s i) := by
  rw [firstFreeFrom]
  show (w.isFree (w.nth i) >>= _).run _ = _
  rw [Act.run_bind_of_ok (w.run_isFree s i)]
  by_cases h : w.Passes i
  · rw [if_pos h, decide_eq_true h]
    rfl
  · rw [if_neg h, decide_eq_false h]
    rfl

/-! ### Whole walks -/

/-- A walk that goes past all candidates on its way refuses behind them. -/
theorem run_firstFreeFrom_of_forall_passes (i count : Nat)
    (h : ∀ j, i ≤ j → j < i + count → w.Passes j) :
    (w.firstFreeFrom i count).run (w.sceneAt s i) =
      .error (.noFreeCandidate (i + count)) (w.sceneAt s (i + count)) := by
  induction count generalizing i with
  | zero => rfl
  | succ count ih =>
    rw [run_firstFreeFrom_succ, if_pos (h i (Nat.le_refl i) (by omega)),
      ih (i + 1) fun j hij hjc => h j (by omega) (by omega), Nat.add_right_comm]
    rfl

/-- A walk answers with the first candidate from its start on that it does not go past. -/
theorem run_firstFreeFrom_of_stopsAt {m : Nat} (h : w.StopsAt m) (i count : Nat) (him : i ≤ m)
    (hm : m < i + count) :
    (w.firstFreeFrom i count).run (w.sceneAt s i) = .ok (w.nth m) (w.sceneAsked s m) := by
  induction count generalizing i with
  | zero => omega
  | succ count ih =>
    rcases Nat.eq_or_lt_of_le him with rfl | hlt
    · rw [run_firstFreeFrom_succ, if_neg h.stops]
    · rw [run_firstFreeFrom_succ, if_pos (h.passes i hlt)]
      exact ih (i + 1) hlt (by omega)

/-- A walk starts in a scene where nothing has happened. -/
theorem sceneAt_zero : w.sceneAt s 0 = { session := s } := by
  rw [sceneAt, questions_zero]
  rfl

/-- **Where a walk stops.**  A walk answers with the first candidate that is neither reserved nor
    taken, if it is in reach, and has asked about all unreserved candidates up to it by then. -/
theorem run_firstFree_of_stopsAt {m : Nat} (hm : m < w.reach) (h : w.StopsAt m) :
    w.firstFree.run { session := s } = .ok (w.nth m) (w.sceneAsked s m) := by
  rw [← sceneAt_zero]
  exact run_firstFreeFrom_of_stopsAt w s h 0 w.reach (Nat.zero_le m) (by omega)

/-- A walk that goes past all candidates in reach refuses after the last of them. -/
theorem run_firstFree_of_passes (h : ∀ i < w.reach, w.Passes i) :
    w.firstFree.run { session := s } = .error (.noFreeCandidate w.reach) (w.sceneAt s w.reach) := by
  have hrun := run_firstFreeFrom_of_forall_passes w s 0 w.reach fun i _ hi => h i (by omega)
  rwa [Nat.zero_add, sceneAt_zero] at hrun

/-- Within any reach a walk stops at a candidate or goes past all of them. -/
theorem stopsAt_or_passes (count : Nat) :
    (∃ m < count, w.StopsAt m) ∨ ∀ i < count, w.Passes i := by
  by_cases h : ∀ i < count, w.Passes i
  · exact Or.inr h
  · simp only [Classical.not_forall] at h
    obtain ⟨i, hi, hstop⟩ := h
    obtain ⟨m, hm, hstops⟩ := w.exists_stopsAt_of_not_passes hstop
    exact Or.inl ⟨m, by omega, hstops⟩

end Walk

end SchemaNaming
