namespace SchemaNaming

/-!
# Tables by id

A finite map from ids to values, which can be evaluated inside proofs.

* `Table.get?` — the value of an id;
* `Table.insert` — gives an id a value, in place of the one it had.
-/

/-- Values by id. -/
structure Table (α : Type) where
  entries : List (String × α) := []

namespace Table

variable {α : Type} (t : Table α) {id id' : String} {a : α}

/-- The value of an id, if it has one. -/
def get? (id : String) : Option α := t.entries.lookup id

/-- Gives an id a value, in place of the one it had. -/
def insert (id : String) (a : α) : Table α where
  entries := (id, a) :: t.entries.filter (·.1 != id)

@[simp] theorem get?_insert_self : (t.insert id a).get? id = some a :=
  List.lookup_cons_self

/-- The other ids keep their values. -/
theorem get?_insert_of_ne (h : id' ≠ id) : (t.insert id a).get? id' = t.get? id' := by
  have hne : (id' == id) = false := beq_false_of_ne h
  -- the look-up passes over the entries that the filter drops
  have filtered : ∀ l : List (String × α), (l.filter (·.1 != id)).lookup id' = l.lookup id' := by
    intro l
    induction l with
    | nil => rfl
    | cons e l ih =>
      obtain ⟨k, v⟩ := e
      by_cases hk : k = id
      · rw [List.filter_cons_of_neg (by simp [hk]), List.lookup_cons, hk, hne, ih]
      · rw [List.filter_cons_of_pos (by simp [hk]), List.lookup_cons, List.lookup_cons, ih]
  show ((id, a) :: t.entries.filter (·.1 != id)).lookup id' = t.entries.lookup id'
  rw [List.lookup_cons, hne, filtered]

end Table

end SchemaNaming
