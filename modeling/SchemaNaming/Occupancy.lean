import SchemaNaming.Registry

namespace SchemaNaming

/-!
# Names that are taken

What a name has to stay clear of, seen as the answers to questions about names.

* `Occupancy` — the answers, if there is somebody to ask, with a bound on how many candidates can be
  taken;
* `Occupancy.taken` — what is found out about a name;
* `Occupancy.free`, `Occupancy.ofList`, `Occupancy.first`, `Occupancy.ofRegistry` — the kinds of
  occupancy.
-/

/-- Answers whether a name is taken. -/
structure Occupancy where
  /-- The answer to a question, which may depend on the questions before it, latest first; none if
      there is nobody to ask. -/
  answer? : Option (List Text → Text → Bool)
  /-- How many of the candidates for one name can be taken at most. -/
  size : Nat

namespace Occupancy

/-- A name is found taken after some questions, latest first.  Where nobody is asked, it is not. -/
def taken (o : Occupancy) (asked : List Text) (name : Text) : Bool :=
  match o.answer? with
  | none => false
  | some answer => answer asked name

/-- How many candidates are tried: two may be keywords, since the others end in a digit, `size` may
    be taken, and one more is free. -/
def reach (o : Occupancy) : Nat := o.size + 3

/-- No name is taken, and nobody is asked. -/
def free : Occupancy := ⟨none, 0⟩

/-- The names in a list are taken. -/
def ofList (names : List Text) : Occupancy :=
  ⟨some fun _ name => names.contains name, names.length⟩

/-- Whatever is asked first, `n` times, is taken. -/
def first (n : Nat) : Occupancy := ⟨some fun asked _ => asked.length < n, n⟩

/-- The names that are declared in a registry are taken. -/
def ofRegistry (r : Registry) : Occupancy := ⟨some fun _ name => r.contains name, r.size⟩

end Occupancy

end SchemaNaming
