import SchemaNaming.Text.Basic
import Mathlib.Data.List.Basic

namespace SchemaNaming

/-!
# Parts around a separator

Two parts are put together with a separator between them.  If the separator is not in the first part,
or not in the second one, the parts can be told from the whole.

* `takeWhile_append_cons_of_notMem` — the first part is read up to the separator;
* `append_cons_inj_of_notMem_left` — parts before the first separator, and after it;
* `append_cons_inj_of_notMem_right` — parts before the last separator, and after it.
-/

section

variable {α : Type} [DecidableEq α] {x : α} {a b c d : List α}

/-- What has no separator is read up to the first one. -/
theorem takeWhile_append_cons_of_notMem (b : List α) (ha : x ∉ a) :
    (a ++ x :: b).takeWhile (· ≠ x) = a := by
  have hread : ∀ y ∈ a, decide (y ≠ x) = true := by
    intro y hy
    exact decide_eq_true (ne_of_mem_of_not_mem hy ha)
  rw [List.takeWhile_append_of_pos hread, List.takeWhile_cons_of_neg (by simp), List.append_nil]

/-- If a separator is in neither of two beginnings, these are the same, and so is what comes after. -/
theorem append_cons_inj_of_notMem_left (ha : x ∉ a) (hc : x ∉ c)
    (h : a ++ x :: b = c ++ x :: d) : a = c ∧ b = d := by
  have hac : a = c := by
    rw [← takeWhile_append_cons_of_notMem b ha, h, takeWhile_append_cons_of_notMem d hc]
  subst hac
  exact ⟨rfl, List.tail_eq_of_cons_eq (List.append_cancel_left h)⟩

/-- If a separator is in neither of two endings, these are the same, and so is what stands before. -/
theorem append_cons_inj_of_notMem_right (hb : x ∉ b) (hd : x ∉ d)
    (h : a ++ x :: b = c ++ x :: d) : a = c ∧ b = d := by
  have hreverse : b.reverse ++ x :: a.reverse = d.reverse ++ x :: c.reverse := by
    simpa using congrArg List.reverse h
  obtain ⟨hends, hbegins⟩ := append_cons_inj_of_notMem_left
    (mt List.mem_reverse.mp hb) (mt List.mem_reverse.mp hd) hreverse
  exact ⟨List.reverse_injective hbegins, List.reverse_injective hends⟩

end

end SchemaNaming
