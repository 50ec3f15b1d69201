import Mathlib.Data.Finset.Card
import SchemaNaming.Occupancy
import SchemaNaming.Proofs.RegistryHistory

namespace SchemaNaming

/-!
# What a registry contains

A registry keeps keys and forgets the modes in which they were made, so a name that was declared in
one mode may be free in the other.  What it contains is told by all names that were ever declared,
each with the mode that was in force then.

* `Registry.declared` — the names that were declared, with their modes;
* `Registry.Known` — a name is found among them in a given mode;
* `Registry.contains_iff_known`, `Registry.size_eq_card_keysOf` — what is contained, and how much;
* `Registry.membership_after_history` — membership and size after any history.
-/

namespace Registry

/-- The names that are declared in a registry of given names, and in the history that follows, each
    with the mode that is in force then. -/
def declared (names : List Text) (caseSensitive : Bool) (events : List Event) :
    List (Bool × Text) :=
  names.map (caseSensitive, ·) ++ declarations caseSensitive events

/-- One of the declared names has the key that `name` has in the mode. -/
def Known (declared : List (Bool × Text)) (mode : Bool) (name : Text) : Prop :=
  ∃ d ∈ declared, keyIn d.1 d.2 = keyIn mode name

/-- The keys of the declared names, in which no key counts twice. -/
def keysOf (declared : List (Bool × Text)) : Finset Text :=
  (declared.map fun d => keyIn d.1 d.2).toFinset

variable {r : Registry} {names : List Text} {caseSensitive : Bool} {events : List Event}

/-! ### Keys -/

/-- The names that a registry is set up with are declared first. -/
theorem declarations_declare_append (names : List Text) (caseSensitive : Bool)
    (events : List Event) : declarations caseSensitive (names.map .declare ++ events) =
      declared names caseSensitive events := by
  induction names with
  | nil => rfl
  | cons name names ih =>
    simp only [List.map_cons, List.cons_append, declarations, declared]
    rw [ih]
    rfl

/-- The keys of a registry are those of the names that were declared. -/
theorem mem_keys_iff_declared (k : Text) :
    k ∈ ((ofList names caseSensitive).replay events).keys ↔
      ∃ d ∈ declared names caseSensitive events, keyIn d.1 d.2 = k := by
  rw [ofList_eq_replay, ← replay_append, mem_keys_replay]
  show k ∈ [] ∨ (∃ d ∈ declarations caseSensitive _, _) ↔ _
  rw [declarations_declare_append]
  simp

/-- The keys of some declarations are those of their names in their modes. -/
theorem mem_keysOf {declared : List (Bool × Text)} {k : Text} :
    k ∈ keysOf declared ↔ ∃ d ∈ declared, keyIn d.1 d.2 = k := by
  simp [keysOf]

/-- After any history a registry has the keys of what was declared. -/
theorem keys_toFinset : ((ofList names caseSensitive).replay events).keys.toFinset =
    keysOf (declared names caseSensitive events) := by
  ext k
  rw [List.mem_toFinset, mem_keys_iff_declared, mem_keysOf]

/-! ### Membership -/

/-- A name is contained if its key in the present mode is the key of a declared name. -/
theorem contains_iff_known (x : Text) :
    let r := (ofList names caseSensitive).replay events
    r.contains x = true ↔ Known (declared names caseSensitive events) r.caseSensitive x := by
  intro r
  rw [contains_iff, key_eq_keyIn, mem_keys_iff_declared]
  rfl

/-- A name that is its own lower case has one key in both modes. -/
theorem keyIn_of_lower_eq_self {x : Text} (h : x.lower = x) (mode : Bool) : keyIn mode x = x := by
  cases mode with
  | true => rfl
  | false => exact h

/-- What is contained stays so, as long as the mode is only confirmed. -/
theorem contains_replay_of_contains {x : Text} (h : r.contains x = true)
    (hmode : ∀ mode, .setCaseSensitive mode ∈ events → mode = r.caseSensitive) :
    (r.replay events).contains x = true := by
  rw [contains_iff, key_eq_keyIn, caseSensitive_replay_eq_self hmode, mem_keys_replay]
  exact Or.inl ((contains_iff r x).mp h)

/-! ### Size -/

/-- After any history a registry counts the different keys of what was declared. -/
theorem size_eq_card_keysOf : ((ofList names caseSensitive).replay events).size =
    (keysOf (declared names caseSensitive events)).card := by
  rw [← keys_toFinset]
  exact (List.toFinset_card_of_nodup (Registry.nodup _)).symm

/-- Nothing makes a registry smaller. -/
theorem size_le_size_replay (r : Registry) (later : List Event) :
    r.size ≤ (r.replay later).size := by
  have hkept : r.keys.toFinset ⊆ (r.replay later).keys.toFinset := by
    intro k hk
    rw [List.mem_toFinset] at hk ⊢
    exact (mem_keys_replay r later k).mpr (Or.inl hk)
  have hcard := Finset.card_le_card hkept
  rwa [List.toFinset_card_of_nodup r.nodup, List.toFinset_card_of_nodup (Registry.nodup _)] at hcard

/-- **Membership after any history.**  Names are given to a registry when it is set up, declared in it
    later, and its mode is changed, in any order.  Then a name is contained, is not free, and counts as
    taken exactly if its key in the present mode is the key of a declared name in the mode of that.
    The size is the number of such keys, so it never decreases, and neither order nor repetition of
    the declarations makes a difference to it.  A name that was declared in the present mode is
    contained, and what is contained stays so until the mode is switched; a name that is its own
    lower case stays contained even then. -/
theorem membership_after_history (names : List Text) (caseSensitive : Bool)
    (events : List Event) :
    let r := (ofList names caseSensitive).replay events
    let all := declared names caseSensitive events
    (∀ x, (r.contains x = true ↔ Known all r.caseSensitive x) ∧
      (r.isFree x = false ↔ Known all r.caseSensitive x) ∧
      ∀ asked, (Occupancy.ofRegistry r).taken asked x = true ↔ Known all r.caseSensitive x) ∧
    r.size = (keysOf all).card ∧
    (∀ later, r.size ≤ (r.replay later).size) ∧
    (∀ names' caseSensitive' events',
      (∀ d, d ∈ declared names' caseSensitive' events' ↔ d ∈ all) →
        ((ofList names' caseSensitive').replay events').size = r.size) ∧
    (∀ name, (r.caseSensitive, name) ∈ all → r.contains name = true) ∧
    (∀ x later, r.contains x = true →
      (∀ mode, .setCaseSensitive mode ∈ later → mode = r.caseSensitive) →
        (r.replay later).contains x = true) ∧
    ∀ mode name, (mode, name) ∈ all → name.lower = name → r.contains name = true := by
  intro r all
  have hcontains : ∀ x, r.contains x = true ↔ Known all r.caseSensitive x := contains_iff_known
  refine ⟨fun x => ⟨hcontains x, ?_, fun _ => hcontains x⟩, size_eq_card_keysOf,
    r.size_le_size_replay, fun names' caseSensitive' events' hsame => ?_, fun name hname => ?_,
    fun x later => contains_replay_of_contains, fun mode name hname hlower => ?_⟩
  · rw [← hcontains x, isFree, Bool.not_eq_false']
  · have hkeys : keysOf (declared names' caseSensitive' events') = keysOf all := by
      ext k
      simp only [mem_keysOf, hsame]
    rw [size_eq_card_keysOf, size_eq_card_keysOf, hkeys]
  · exact (hcontains name).mpr ⟨_, hname, rfl⟩
  · refine (hcontains name).mpr ⟨_, hname, ?_⟩
    rw [keyIn_of_lower_eq_self hlower, keyIn_of_lower_eq_self hlower]

/-- `Foo` is declared without regard to case, `Bar` and `baz` with it, and then the mode is switched
    back: `FOO` and `baz` are taken, while `Bar` is free again until it is declared once more. -/
theorem membership_after_switches :
    let events : List Event :=
      [.setCaseSensitive true, .declare "Bar", .declare "baz", .declare "Bar",
        .setCaseSensitive false]
    let r := (ofList ["Foo"] false).replay events
    r.contains "FOO" = true ∧ r.isFree "Bar" = true ∧ r.contains "baz" = true ∧ r.size = 3 ∧
    (r.replay [.declare "Bar", .setCaseSensitive false]).contains "baz" = true ∧
    ((ofList [] true).replay
      [.declare "baz", .declare "Bar", .setCaseSensitive false, .declare "Foo"]).size = r.size := by
  intro events r
  obtain ⟨hmember, _, _, hsize, _, hstays, hboth⟩ := membership_after_history ["Foo"] false events
  have hbaz : r.contains "baz" = true := hboth true "baz" (by decide) (by decide +kernel)
  have hconfirmed : ∀ mode,
      .setCaseSensitive mode ∈ [Event.declare "Bar", .setCaseSensitive false] → mode = false := by
    simp
  refine ⟨?_, by decide +kernel, hbaz, by decide +kernel, hstays _ _ hbaz hconfirmed, ?_⟩
  · exact (hmember "FOO").1.mpr ⟨(false, "Foo"), by decide, by decide +kernel⟩
  · refine hsize [] true _ fun d => ?_
    simp only [declared, declarations, events]
    grind

end Registry

end SchemaNaming
