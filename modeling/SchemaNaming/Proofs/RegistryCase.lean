import SchemaNaming.Proofs.CaseVariant
import SchemaNaming.Proofs.RegistryHistory

namespace SchemaNaming

/-!
# Registries that do not mind case

A registry that never minded case stores lower cases, and a lower case is its own lower case.  So a
name is found by its key, and all spellings of a name that differ in the case of ASCII letters only
are one name to the registry, whatever other characters stand between the letters.

* `Registry.declare_congr_key`, `Registry.declare_eq_self` — declaring names of one key;
* `Registry.Lowered` — the registry does not mind case, and its keys are their own lower cases;
* `Registry.Lowered.replay` — a history that does not switch the mode keeps a registry lowered;
* `Registry.case_variants_identified` — spellings of one name after any such history.
-/

namespace Registry

variable {r : Registry} {x y : Text}

/-! ### Names of one key -/

/-- Names of one key are contained together. -/
theorem contains_congr_key (h : r.key x = r.key y) : r.contains x = r.contains y := by
  rw [contains, h, contains]

/-- Of names of one key, it does not matter which is declared. -/
theorem declare_congr_key (h : r.key x = r.key y) : r.declare x = r.declare y := by
  simp only [declare, h]

/-- To declare a name that is contained changes nothing. -/
theorem declare_eq_self (h : r.contains x = true) : r.declare x = r := by
  rw [contains_iff] at h
  simp only [declare, List.insert_of_mem h]

/-- After a name, no name of the same key changes anything. -/
theorem declare_declare_of_key_eq (h : r.key x = r.key y) :
    (r.declare x).declare y = r.declare x := by
  apply declare_eq_self
  rw [contains_iff, keys_declare, List.mem_insert_iff]
  exact Or.inl h.symm

/-! ### Lowered registries -/

/-- The registry does not mind case, and each of its keys is its own lower case. -/
structure Lowered (r : Registry) : Prop where
  caseSensitive : r.caseSensitive = false
  lower_key : ∀ k ∈ r.keys, k.lower = k

/-- A registry without names has no keys that would not be lowered. -/
theorem lowered_empty : Lowered (empty false) := ⟨rfl, fun _ hk => nomatch hk⟩

namespace Lowered

/-- The key of a name is its lower case. -/
theorem key_eq (hr : r.Lowered) (x : Text) : r.key x = x.lower := by
  rw [key, hr.caseSensitive]
  rfl

/-- Every key that is stored is its own key. -/
theorem key_eq_self (hr : r.Lowered) {k : Text} (hk : k ∈ r.keys) : r.key k = k := by
  rw [hr.key_eq, hr.lower_key k hk]

/-- A name and its lower case have one key. -/
theorem key_lower (hr : r.Lowered) (x : Text) : r.key x.lower = r.key x := by
  rw [hr.key_eq, hr.key_eq, Text.lower_lower]

/-- All spellings of a name have one key. -/
theorem key_eq_of_caseVariant (hr : r.Lowered) (h : x.CaseVariant y) : r.key x = r.key y := by
  rw [hr.key_eq, hr.key_eq, h.lower_eq]

/-- To declare another name leaves the keys lowered. -/
theorem declare (hr : r.Lowered) (x : Text) : (r.declare x).Lowered := by
  refine ⟨hr.caseSensitive, fun k hk => ?_⟩
  rw [keys_declare, List.mem_insert_iff, hr.key_eq] at hk
  rcases hk with rfl | hold
  · exact Text.lower_lower x
  · exact hr.lower_key k hold

/-- No event but a switch of the mode can bring in a key that is not lowered. -/
theorem obey (hr : r.Lowered) {e : Event} (he : e ≠ .setCaseSensitive true) :
    (r.obey e).Lowered := by
  cases e with
  | declare name => exact hr.declare name
  | setCaseSensitive mode =>
    cases mode with
    | false => exact ⟨rfl, hr.lower_key⟩
    | true => exact absurd rfl he

/-- A history without such a switch keeps the registry lowered. -/
theorem replay (hr : r.Lowered) {events : List Event} (hmode : .setCaseSensitive true ∉ events) :
    (r.replay events).Lowered := by
  induction events generalizing r with
  | nil => exact hr
  | cons e events ih =>
    rw [List.mem_cons, not_or] at hmode
    exact ih (hr.obey (Ne.symm hmode.1)) hmode.2

end Lowered

/-- A registry of given names stays lowered as long as its mode is not switched. -/
theorem lowered_ofList_replay (names : List Text) {events : List Event}
    (hmode : .setCaseSensitive true ∉ events) : ((ofList names).replay events).Lowered := by
  rw [ofList_eq_replay]
  exact (lowered_empty.replay (by simp)).replay hmode

/-- **Spellings of a name.**  A registry is set up without regard to case, and its mode is never
    switched.  Then a name is contained with its lower case, and every key that is stored is its own
    key, since lower-casing a second time changes nothing.  Of two names that differ in the case of
    ASCII letters only, both are contained or none is, and it is all the same to the registry which of
    them is declared, or whether both are. -/
theorem case_variants_identified (names : List Text) (events : List Event)
    (hmode : .setCaseSensitive true ∉ events) :
    let r := (ofList names).replay events
    (∀ x : Text, x.lower.lower = x.lower ∧ r.contains x.lower = r.contains x) ∧
    (∀ k ∈ r.keys, r.key k = k) ∧
    ∀ x y : Text, x.CaseVariant y →
      r.contains x = r.contains y ∧ r.declare x = r.declare y ∧
      (r.declare x).declare y = r.declare x ∧ (r.declare y).declare x = r.declare x := by
  intro r
  have hr : r.Lowered := lowered_ofList_replay names hmode
  refine ⟨fun x => ⟨x.lower_lower, contains_congr_key (hr.key_lower x)⟩, fun k => hr.key_eq_self,
    fun x y hxy => ?_⟩
  have hkey := hr.key_eq_of_caseVariant hxy
  have hdeclare := declare_congr_key hkey
  refine ⟨contains_congr_key hkey, hdeclare, declare_declare_of_key_eq hkey, ?_⟩
  rw [← hdeclare, declare_eq_self]
  rw [contains_iff, keys_declare, List.mem_insert_iff]
  exact Or.inl rfl

/-- Neither a sigma that ends its word nor a dotted capital I parts two spellings, and both are
    contained when a third one was declared. -/
theorem case_variants_identified_sigma :
    let events : List Event := [.declare "apP\\ΟΔΟΣ_İx", .setCaseSensitive false]
    let r := (ofList ["Foo"]).replay events
    let x : Text := "App\\ΟΔΟΣ_İX"
    let y : Text := "aPP\\ΟΔΟΣ_İx"
    .setCaseSensitive true ∉ events ∧ x.CaseVariant y ∧
    r.contains x = true ∧ r.contains y = true ∧ r.contains y.lower = true ∧
    r.declare x = r.declare y ∧ (r.declare x).declare y = r.declare x ∧
    Text.lower "foo" ∈ r.keys ∧ r.key (Text.lower "foo") = Text.lower "foo" := by
  intro events r x y
  have hmode : .setCaseSensitive true ∉ events := by simp [events]
  have hxy : x.CaseVariant y := by decide +kernel
  obtain ⟨hlower, hkeys, hvariants⟩ := case_variants_identified ["Foo"] events hmode
  obtain ⟨hcontains, hdeclare, hboth, _⟩ := hvariants x y hxy
  have hx : r.contains x = true := by decide +kernel
  have hfoo : Text.lower "foo" ∈ r.keys := by decide +kernel
  refine ⟨hmode, hxy, hx, hcontains ▸ hx, ?_, hdeclare, hboth, hfoo, hkeys _ hfoo⟩
  rw [(hlower y).2, ← hcontains, hx]

end Registry

end SchemaNaming
