import Mathlib
import SchemaNaming.Proofs.Walk

namespace SchemaNaming

/-!
# How far walks go

All candidates for a name are different, and they stay different under every map that keeps apart
what was put behind a text.  So if names are taken for the sake of finitely many keys, a walk asks
about no more candidates than there are keys before it finds one that is free.

* `candidate_later` — how a candidate differs from the earlier ones;
* `KeepsEndings` — the maps that keep apart what is put behind a text;
* `KeepsEndings.candidate_injective` — under such a map all candidates differ;
* `Walk.Keyed` — what is found taken has one of finitely many keys;
* `Walk.Keyed.exists_stopsAt` — such a walk stops, after so many questions at most.
-/

/-! ### Candidates differ -/

/-- Different characters are different code points. -/
theorem CodePoint.ofChar_injective : Function.Injective CodePoint.ofChar := by
  intro c d h
  have hchar := CodePoint.toChar?_ofChar c
  rw [h, CodePoint.toChar?_ofChar] at hchar
  exact (Option.some.inj hchar).symm

/-- Different numbers have different numerals. -/
theorem Text.ofNat_injective : Function.Injective Text.ofNat := by
  intro m n h
  have hrepr : m.repr.toList = n.repr.toList :=
    List.map_injective_iff.mpr CodePoint.ofChar_injective h
  exact Nat.repr_injective (String.toList_inj.mp hrepr)

/-- A later candidate goes on behind the earlier one, or has another number in its place. -/
theorem candidate_later (base suffix : Text) {i j : Nat} (hij : i < j) :
    (∃ u, u ≠ [] ∧ candidate base suffix j = candidate base suffix i ++ u) ∨
    ∃ t m n, m ≠ n ∧ candidate base suffix i = t ++ Text.ofNat m ∧
      candidate base suffix j = t ++ Text.ofNat n := by
  have hj : j ≠ 0 := by omega
  by_cases hi : i = 0
  · left
    exact ⟨ending suffix j, ending_ne_nil suffix hj, by rw [hi, candidate_zero, candidate_eq_append]⟩
  · by_cases hsuffix : suffix = []
    · right
      exact ⟨base, i + 1, j + 1, by omega, by simp [candidate, hi, hsuffix],
        by simp [candidate, hj, hsuffix]⟩
    · have hj1 : j ≠ 1 := by omega
      by_cases hi1 : i = 1
      · -- the earlier one has the suffix, and no number yet
        left
        refine ⟨Text.ofNat j, Text.ofNat_ne_nil j, ?_⟩
        simp [candidate, hi1, hj, hj1, hsuffix]
      · right
        exact ⟨base ++ suffix, i, j, by omega, by simp [candidate, hi, hi1, hsuffix],
          by simp [candidate, hj, hj1, hsuffix]⟩

/-- The map makes more of a text when something is put behind it, and leaves a number there alone. -/
structure KeepsEndings (f : Text → Text) : Prop where
  length_lt : ∀ t u, u ≠ [] → (f t).length < (f (t ++ u)).length
  append_ofNat : ∀ t n, f (t ++ Text.ofNat n) = f t ++ Text.ofNat n

/-- A text as it is keeps its ending. -/
theorem keepsEndings_id : KeepsEndings id where
  length_lt t u hu := by
    have := List.length_pos_iff.mpr hu
    show t.length < (t ++ u).length
    rw [List.length_append]
    omega
  append_ofNat _ _ := rfl

namespace KeepsEndings

variable {f : Text → Text} (hf : KeepsEndings f) (base suffix : Text)
include hf

/-- The map keeps a candidate apart from the later ones. -/
theorem candidate_ne {i j : Nat} (hij : i < j) :
    f (candidate base suffix i) ≠ f (candidate base suffix j) := by
  intro heq
  rcases candidate_later base suffix hij with ⟨u, hu, hlater⟩ | ⟨t, m, n, hne, hearlier, hlater⟩
  · -- the two are mapped to texts of different lengths
    have hlt := hf.length_lt (candidate base suffix i) u hu
    rw [← hlater, heq] at hlt
    omega
  · -- the two end in different numbers behind the same text
    rw [hearlier, hlater, hf.append_ofNat, hf.append_ofNat] at heq
    exact hne (Text.ofNat_injective (List.append_cancel_left heq))

/-- **Candidates differ.**  No two candidates for a name are mapped to the same text. -/
theorem candidate_injective : Function.Injective fun i => f (candidate base suffix i) := by
  intro i j h
  rcases Nat.lt_trichotomy i j with hlt | heq | hgt
  · exact absurd h (hf.candidate_ne base suffix hlt)
  · exact heq
  · exact absurd h.symm (hf.candidate_ne base suffix hgt)

end KeepsEndings

/-! ### Counting questions -/

namespace Walk

variable {w : Walk}

/-- Questions are asked about unreserved candidates only. -/
theorem exists_of_mem_questions {m : Nat} {question : Text} (h : question ∈ w.questions m) :
    ∃ i < m, w.reserved (w.nth i) = false ∧ w.asks (w.nth i) = question := by
  unfold questions at h
  split at h
  · simpa [and_assoc] using h
  · cases h

/-- If only the first `k` candidates may be reserved, all others are asked about. -/
theorem le_length_questions_add (hask : w.answer?.isSome = true) {k : Nat}
    (hres : ∀ i, k ≤ i → w.reserved (w.nth i) = false) (m : Nat) : m ≤ (w.questions m).length + k := by
  induction m with
  | zero => exact Nat.zero_le _
  | succ m ih =>
    cases hm : w.reserved (w.nth m) with
    | true =>
      -- nothing is asked, but there are no more than `k` such candidates
      have hlt : m < k := by
        by_contra hle
        simp [hres m (by omega)] at hm
      omega
    | false =>
      rw [questions_succ_of_not_reserved w hask hm, List.length_append, List.length_singleton]
      omega

/-- The candidate at which a walk stops takes one more question. -/
theorem StopsAt.length_questions (hask : w.answer?.isSome = true) {m : Nat} (h : w.StopsAt m) :
    (w.questions (m + 1)).length = (w.questions m).length + 1 := by
  simp [questions_succ_of_not_reserved w hask h.free.1]

variable (w) in
/-- There is somebody to ask, different candidates are asked about under different keys, and what is
    found taken has one of the keys in a list. -/
structure Keyed (key : Text → Text) (keys : List Text) : Prop where
  answered : w.answer?.isSome = true
  injective : Function.Injective fun i => key (w.asks (w.nth i))
  mem : ∀ asked question, w.taken asked question = true → key question ∈ keys

namespace Keyed

variable {key : Text → Text} {keys : List Text} (h : w.Keyed key keys)
include h

/-- No key is asked about twice. -/
theorem nodup_questions (m : Nat) : ((w.questions m).map key).Nodup := by
  -- the questions are told by the numbers of their candidates, which are all different
  have hkeys : (w.questions m).map key =
      ((List.range m).filter fun i => !w.reserved (w.nth i)).map
        fun i => key (w.asks (w.nth i)) := by
    simp [questions, h.answered, List.filter_map, Function.comp_def]
  rw [hkeys]
  exact (List.nodup_range.filter _).map h.injective

/-- **Counting questions.**  Among the candidates that a walk goes past, it asks about no more than
    there are keys. -/
theorem length_questions_le {m : Nat} (hpass : ∀ i < m, w.Passes i) :
    (w.questions m).length ≤ keys.length := by
  have hsubset : (w.questions m).map key ⊆ keys := by
    intro k hk
    obtain ⟨question, hquestion, rfl⟩ := List.mem_map.mp hk
    obtain ⟨i, hi, hres, rfl⟩ := exists_of_mem_questions hquestion
    have htaken := (hpass i hi).resolve_left (by simp [hres])
    exact h.mem _ _ htaken
  have hlength := (h.nodup_questions m).length_le_of_subset hsubset
  rwa [List.length_map] at hlength

/-- **Walks come to an end.**  If only the first `k` candidates may be reserved, a walk stops after
    as many candidates as there are keys and those, at the latest. -/
theorem exists_stopsAt {k : Nat} (hres : ∀ i, k ≤ i → w.reserved (w.nth i) = false) :
    ∃ m ≤ keys.length + k, w.StopsAt m := by
  have hstop : ∃ m ≤ keys.length + k, ¬ w.Passes m := by
    by_contra hpass
    push Not at hpass
    -- one question too many would have been answered
    have hquestions := h.length_questions_le (m := keys.length + k + 1)
      fun i hi => hpass i (by omega)
    have hlength := le_length_questions_add h.answered hres (keys.length + k + 1)
    omega
  obtain ⟨m, hm, hnot⟩ := hstop
  obtain ⟨i, hi, hstops⟩ := w.exists_stopsAt_of_not_passes hnot
  exact ⟨i, by omega, hstops⟩

end Keyed

end Walk

end SchemaNaming
