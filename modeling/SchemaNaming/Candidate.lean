import SchemaNaming.Act

namespace SchemaNaming

/-!
# Candidates for a free name

A name that is taken is tried again with a suffix, with a number, or with both.

* `candidate` — the sequence of names that are tried;
* `Walk` — what a search goes by: which candidates it passes over, and how it asks about the others;
* `Walk.firstFree` — walks to the first candidate that is found free.
-/

/-- The names that are tried for `base`, counted from zero: first `base` itself, then it with the
    suffix, then with the suffix and the numbers from 2 up.  Without a suffix the numbers from 2 up
    follow at once. -/
def candidate (base suffix : Text) (i : Nat) : Text :=
  if i = 0 then base
  else if suffix = [] then base ++ Text.ofNat (i + 1)
  else if i = 1 then base ++ suffix
  else base ++ suffix ++ Text.ofNat i

@[simp] theorem candidate_zero (base suffix : Text) : candidate base suffix 0 = base := rfl

/-- A walk along the candidates for a name, past those that are taken. -/
structure Walk extends Occupancy where
  base : Text
  suffix : Text
  /-- The candidate is passed over without a question. -/
  reserved : Text → Bool := fun _ => false
  /-- The name that is asked about for a candidate. -/
  asks : Text → Text := id

/-- A name that was found free. -/
structure Found where
  name : Text
  /-- The names that were asked about, in order. -/
  asked : List Text := []
  /-- How many candidates were looked at, with those that were passed over. -/
  tried : Nat := 1
deriving DecidableEq

namespace Walk

variable (w : Walk)

/-- Finds out whether a candidate is free. -/
def isFree (name : Text) : Act Bool := do
  -- nobody is asked about a reserved candidate, so it leaves no trace among the questions
  if w.reserved name then return false
  return !(← Act.isTaken w.toOccupancy (w.asks name))

/-- Walks on from the `i`-th candidate through `count` candidates. -/
def firstFreeFrom (i : Nat) : (count : Nat) → Act Text
  | 0 => throw (.noFreeCandidate i)
  | count + 1 => do
    let name := candidate w.base w.suffix i
    if ← w.isFree name then return name
    Act.passOver
    firstFreeFrom (i + 1) count

/-- The first free candidate in reach. -/
def firstFree : Act Text := w.firstFreeFrom 0 w.reach

end Walk

end SchemaNaming
