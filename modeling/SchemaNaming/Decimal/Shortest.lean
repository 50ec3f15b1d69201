namespace SchemaNaming

/-!
# Shortest decimals

The decimal with the fewest digits that lies among the reals which round to a given binary
floating-point number, and of those the nearest.

* `Binary` — a positive number `mantissa * 2 ^ exponent` with its rounding interval;
* `Binary.onGrid?` — the multiple of a power of ten that reads back, if there is one;
* `Binary.shortest` — the decimal on the coarsest grid that has one.

All comparisons are exact, between natural numbers.
-/

/-- A positive binary number, `mantissa * 2 ^ exponent`. -/
structure Binary where
  mantissa : Nat
  exponent : Int
  /-- The gap to the number below is half the gap to the number above. -/
  narrowBelow : Bool

/-- A decimal number, `digits * 10 ^ exponent`. -/
structure Decimal where
  digits : Nat
  exponent : Int
deriving DecidableEq

namespace Binary

/-- The magnitude of a finite number, from its 64 bits: 11 of exponent and 52 of fraction below
    the sign. -/
def ofBits (bits : UInt64) : Binary :=
  -- exponent zero marks the subnormal numbers, which have no leading one
  let exponent := ((bits >>> 52) &&& 0x7FF).toNat
  let fraction := (bits &&& 0xFFFFFFFFFFFFF).toNat
  if exponent = 0 then ⟨fraction, -1074, false⟩
  else ⟨0x10000000000000 + fraction, exponent - 1075, fraction = 0 && 1 < exponent⟩

variable (x : Binary) (grid : Int)

/-- One quarter of the last binary place, divided by `10 ^ grid`, is `above / below`. -/
def above : Nat := Nat.pow 2 (x.exponent - 2).toNat * Nat.pow 10 (-grid).toNat

@[inherit_doc above]
def below : Nat := Nat.pow 2 (2 - x.exponent).toNat * Nat.pow 10 grid.toNat

/-- The decimal `n * 10 ^ grid` rounds to `x`: it lies in the rounding interval of `x`, whose ends
    belong to it when the mantissa is even. -/
def readsBack (n : Nat) : Bool :=
  -- in quarters of the last binary place the interval reaches two up, and two or one down
  let low := (4 * x.mantissa - if x.narrowBelow then 1 else 2) * x.above grid
  let high := (4 * x.mantissa + 2) * x.above grid
  let point := n * x.below grid
  if x.mantissa % 2 = 0 then low ≤ point && point ≤ high else low < point && point < high

/-- Of the two multiples of `10 ^ grid` around `x`, the one that reads back; if both do, the nearer
    one, and the even one of two that are equally near. -/
def onGrid? : Option Nat :=
  -- `x` lies between `n` and `n + 1` grid steps
  let value := 4 * x.mantissa * x.above grid
  let n := value / x.below grid
  match x.readsBack grid n, x.readsBack grid (n + 1) with
  | false, false => none
  | true, false => some n
  | false, true => some (n + 1)
  | true, true =>
    match compare (2 * value) ((2 * n + 1) * x.below grid) with
    | .lt => some n
    | .gt => some (n + 1)
    | .eq => some (if n % 2 = 0 then n else n + 1)

/-- A power of ten that is greater than the number; 0.30103 is a little more than the decimal
    logarithm of two. -/
def topGrid : Int := (x.exponent + x.mantissa.log2 + 1) * 30103 / 100000 + 2

/-- The exact value as a decimal. -/
def exact : Decimal :=
  ⟨x.mantissa * Nat.pow 2 x.exponent.toNat * Nat.pow 5 (-x.exponent).toNat, min x.exponent 0⟩

/-- The decimal with the fewest digits that reads back.  Seventeen digits always suffice, so the
    grids that are tried, from coarse to fine, reach twenty places below the first digit. -/
def shortest : Decimal :=
  let onGridBelowTop (i : Nat) : Option Decimal :=
    (x.onGrid? (x.topGrid - i)).map fun n => ⟨n, x.topGrid - i⟩
  ((List.range 24).findSome? onGridBelowTop).getD x.exact

end Binary

end SchemaNaming
