import SchemaNaming.Proofs.Lowercase
import SchemaNaming.Registry

namespace SchemaNaming

/-!
# Histories of a registry

Names are declared in a registry and its mode is changed, in any order.  The keys do not tell in
which mode they were stored, so what a registry contains depends on its whole history.

* `Registry.replay` — the registry that a history makes of another one;
* `Registry.declarations` — the names that a history declares, with the mode each is declared in;
* `Registry.mem_keys_replay` — the keys are those of the declarations;
* `Registry.ne_of_not_contains_replay` — as long as the case of letters does not count, a name that
  is free differs in more than case from all declared ones;
* `Registry.Same` — the same mode and the same keys, in whatever order they came in.
-/

namespace Registry

/-- What can happen to a registry. -/
inductive Event where
  | declare (name : Text)
  | setCaseSensitive (caseSensitive : Bool)
deriving DecidableEq

variable (r : Registry)

/-- The registry after an event. -/
def obey : Event → Registry
  | .declare name => r.declare name
  | .setCaseSensitive caseSensitive => r.setCaseSensitive caseSensitive

/-- The registry after a history, which is given oldest event first. -/
def replay (events : List Event) : Registry := events.foldl obey r

@[simp] theorem replay_nil : r.replay [] = r := rfl

@[simp] theorem replay_cons (e : Event) (events : List Event) :
    r.replay (e :: events) = (r.obey e).replay events := rfl

/-- A history may be replayed in two parts. -/
theorem replay_append (events later : List Event) :
    r.replay (events ++ later) = (r.replay events).replay later :=
  List.foldl_append

/-- A registry of given names has declared one after the other. -/
theorem ofList_eq_replay (names : List Text) (caseSensitive : Bool) :
    ofList names caseSensitive = (empty caseSensitive).replay (names.map .declare) := by
  rw [ofList, replay, List.foldl_map]
  rfl

/-! ### Keys of a history -/

/-- What a name is stored under in a mode. -/
def keyIn (caseSensitive : Bool) (name : Text) : Text := if caseSensitive then name else name.lower

/-- The key of a name depends on the mode only. -/
theorem key_eq_keyIn (name : Text) : r.key name = keyIn r.caseSensitive name := rfl

/-- The names that a history declares, each with the mode that is in force then.  At first
    `caseSensitive` is. -/
def declarations (caseSensitive : Bool) : List Event → List (Bool × Text)
  | [] => []
  | .declare name :: events => (caseSensitive, name) :: declarations caseSensitive events
  | .setCaseSensitive mode :: events => declarations mode events

/-- **Keys of a history.**  The keys of a registry are the old ones and those of the names that were
    declared, each in the mode that was in force. -/
theorem mem_keys_replay (events : List Event) (k : Text) : k ∈ (r.replay events).keys ↔
    k ∈ r.keys ∨ ∃ d ∈ declarations r.caseSensitive events, keyIn d.1 d.2 = k := by
  -- an event may change the mode, so the registry that the rest starts from is any
  induction events generalizing r with
  | nil => simp [declarations]
  | cons e events ih =>
    rw [replay_cons, ih]
    cases e with
    | declare name =>
      show k ∈ (r.declare name).keys ∨ (∃ d ∈ declarations r.caseSensitive events, _) ↔ _
      simp only [keys_declare, List.mem_insert_iff, declarations, List.mem_cons, or_and_right,
        exists_or, exists_eq_left, key_eq_keyIn]
      rw [eq_comm, or_assoc, or_left_comm]
    | setCaseSensitive mode =>
      -- the keys that are stored stay, and the mode is the one that the rest starts with
      exact Iff.rfl

/-! ### Histories without regard to case -/

variable {r} {events : List Event}

/-- A mode that is only confirmed stays. -/
theorem caseSensitive_replay_eq_self
    (hmode : ∀ mode, .setCaseSensitive mode ∈ events → mode = r.caseSensitive) :
    (r.replay events).caseSensitive = r.caseSensitive := by
  induction events generalizing r with
  | nil => rfl
  | cons e events ih =>
    have hobey : (r.obey e).caseSensitive = r.caseSensitive := by
      cases e with
      | declare name => rfl
      | setCaseSensitive mode => exact hmode mode List.mem_cons_self
    rw [replay_cons, ih, hobey]
    intro mode hmem
    rw [hobey]
    exact hmode mode (List.mem_cons_of_mem e hmem)

/-- Unless it is switched on, case sensitivity stays off. -/
theorem caseSensitive_replay (hr : r.caseSensitive = false)
    (hmode : .setCaseSensitive true ∉ events) : (r.replay events).caseSensitive = false := by
  rw [caseSensitive_replay_eq_self, hr]
  intro mode hmem
  cases mode with
  | false => exact hr.symm
  | true => exact absurd hmem hmode

/-- As long as case sensitivity stays off, all names are declared without it. -/
theorem mem_declarations_false (hmode : .setCaseSensitive true ∉ events) {name : Text}
    (h : .declare name ∈ events) : (false, name) ∈ declarations false events := by
  induction events with
  | nil => cases h
  | cons e events ih =>
    rw [List.mem_cons, not_or] at hmode
    cases e with
    | declare name' =>
      rw [declarations, List.mem_cons]
      rcases List.mem_cons.mp h with heq | hrest
      · cases heq
        exact Or.inl rfl
      · exact Or.inr (ih hmode.2 hrest)
    | setCaseSensitive mode =>
      have hrest : .declare name ∈ events := (List.mem_cons.mp h).resolve_left nofun
      cases mode with
      | false => exact ih hmode.2 hrest
      | true => exact absurd rfl hmode.1

/-- A free name differs from every declared one, whether they are compared by their lower case or
    by the case of ASCII letters only. -/
theorem ne_of_not_contains_replay (hr : r.caseSensitive = false)
    (hmode : .setCaseSensitive true ∉ events) {name : Text}
    (hfree : (r.replay events).contains name = false) {d : Text} (hd : .declare d ∈ events) :
    name.lower ≠ d.lower ∧ name.asciiFold ≠ d.asciiFold := by
  have hkey : (r.replay events).key name = name.lower := by
    rw [key_eq_keyIn, caseSensitive_replay hr hmode]
    rfl
  have hmem : d.lower ∈ (r.replay events).keys := by
    rw [mem_keys_replay, hr]
    exact Or.inr ⟨(false, d), mem_declarations_false hmode hd, rfl⟩
  -- with the lower case of `d` the name would be found under its key
  have hlower : name.lower ≠ d.lower := by
    intro heq
    rw [Bool.eq_false_iff, Ne, contains_iff, hkey, heq] at hfree
    exact hfree hmem
  exact ⟨hlower, fun heq => hlower (Text.lower_eq_of_asciiFold_eq heq)⟩

/-! ### Size -/

/-- A name that is free adds a key. -/
theorem size_declare_of_not_contains {name : Text} (h : r.contains name = false) :
    (r.declare name).size = r.size + 1 := by
  rw [Bool.eq_false_iff, Ne, contains_iff] at h
  rw [size, keys_declare, List.length_insert_of_not_mem h, size]

/-! ### Order -/

/-- Two registries have the same mode and the same keys.  In which order the keys came in does not
    count, for nothing that is asked of a registry depends on it. -/
structure Same (r r' : Registry) : Prop where
  mode : r.caseSensitive = r'.caseSensitive
  keys : r.keys.Perm r'.keys

/-- No key is stored twice, so it is enough that the same keys are stored. -/
theorem same_of_mem_keys_iff {r r' : Registry} (hmode : r.caseSensitive = r'.caseSensitive)
    (h : ∀ k, k ∈ r.keys ↔ k ∈ r'.keys) : r.Same r' where
  mode := hmode
  keys := (List.perm_ext_iff_of_nodup r.nodup r'.nodup).mpr h

/-- Names may be declared in any order. -/
theorem same_replay_of_perm (r : Registry) {names names' : List Text} (h : names.Perm names') :
    (r.replay (names.map .declare)).Same (r.replay (names'.map .declare)) := by
  have hdeclared : ∀ (mode : Bool) (names : List Text),
      declarations mode (names.map .declare) = names.map (mode, ·) := by
    intro mode names
    induction names with
    | nil => rfl
    | cons name names ih => simp only [List.map_cons, declarations, ih]
  have hmode : ∀ names : List Text,
      (r.replay (names.map .declare)).caseSensitive = r.caseSensitive := by
    intro names
    apply caseSensitive_replay_eq_self
    simp
  refine same_of_mem_keys_iff ((hmode names).trans (hmode names').symm) fun k => ?_
  simp only [mem_keys_replay, hdeclared, List.mem_map, h.mem_iff]

end Registry

end SchemaNaming
