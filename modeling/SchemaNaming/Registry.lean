import SchemaNaming.Text.Lowercase

namespace SchemaNaming

/-!
# Registries of declared names

A registry remembers names by their keys.  The key of a name is the name itself in a case-sensitive
registry, and its lower case otherwise.  The mode may change; keys that are stored stay as they are.

* `Registry.ofList` — the registry of the names in a list;
* `Registry.declare`, `Registry.contains` — adding a name, and asking for one.
-/

/-- The names that are declared, as keys. -/
structure Registry where
  caseSensitive : Bool
  keys : List Text
  /-- No key is stored twice. -/
  nodup : keys.Nodup
deriving DecidableEq

namespace Registry

/-- A registry without names. -/
def empty (caseSensitive : Bool := false) : Registry := ⟨caseSensitive, [], .nil⟩

instance : Inhabited Registry := ⟨empty⟩

variable (r : Registry)

/-- What a name is stored under. -/
def key (name : Text) : Text := if r.caseSensitive then name else name.lower

/-- The name is declared. -/
def contains (name : Text) : Bool := r.keys.contains (r.key name)

/-- The name is not declared. -/
def isFree (name : Text) : Bool := !r.contains name

/-- The number of keys. -/
def size : Nat := r.keys.length

/-- A key that is stored twice counts once. -/
theorem nodup_insert (k : Text) : (r.keys.insert k).Nodup := by
  by_cases h : k ∈ r.keys
  · simpa [List.insert_of_mem h] using r.nodup
  · simpa [List.insert_of_not_mem h] using ⟨h, r.nodup⟩

/-- Declares a name. -/
def declare (name : Text) : Registry := { r with
  keys := r.keys.insert (r.key name)
  nodup := r.nodup_insert _ }

/-- Changes the mode, for the names that come from now on. -/
def setCaseSensitive (caseSensitive : Bool) : Registry := { r with caseSensitive }

/-- The registry of the names in a list. -/
def ofList (names : List Text) (caseSensitive : Bool := false) : Registry :=
  names.foldl declare (empty caseSensitive)

/-- A name is declared when its key is stored. -/
@[simp] theorem contains_iff (name : Text) : r.contains name = true ↔ r.key name ∈ r.keys := by
  simp [contains]

@[simp] theorem keys_declare (name : Text) :
    (r.declare name).keys = r.keys.insert (r.key name) := rfl

@[simp] theorem caseSensitive_declare (name : Text) :
    (r.declare name).caseSensitive = r.caseSensitive := rfl

@[simp] theorem keys_setCaseSensitive (b : Bool) : (r.setCaseSensitive b).keys = r.keys := rfl

end Registry

end SchemaNaming
