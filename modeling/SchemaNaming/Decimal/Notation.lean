import SchemaNaming.Decimal.Shortest
import SchemaNaming.Text.Basic

namespace SchemaNaming

/-!
# Notation of fractional numbers

A floating-point number is written with the fewest digits that read back, positionally while the
first digit stands between the fourth place after the point and the sixteenth before it, and with
a power of ten otherwise.
-/

namespace Decimal

/-- The digits of a decimal, without its exponent. -/
def numeral (d : Decimal) : Text := Text.ofNat d.digits

/-- The power of ten of the first digit. -/
def magnitude (d : Decimal) : Int := d.exponent + d.numeral.length - 1

/-- A row of zeros. -/
def zeros (n : Nat) : Text := List.replicate n (CodePoint.ofChar '0')

/-- The number with its point at its place, and at least one digit on each side of it. -/
def positional (d : Decimal) : Text :=
  if 0 ≤ d.exponent then d.numeral ++ zeros d.exponent.toNat ++ ".0"
  else if 0 ≤ d.magnitude then
    d.numeral.take (d.magnitude.toNat + 1) ++ "." ++ d.numeral.drop (d.magnitude.toNat + 1)
  else "0." ++ zeros (-d.magnitude - 1).toNat ++ d.numeral

/-- The number with its point after the first digit, and a signed exponent of two digits or more. -/
def scientific (d : Decimal) : Text :=
  let fraction : Text := if d.numeral.length ≤ 1 then [] else "." ++ d.numeral.drop 1
  let sign : Text := if d.magnitude < 0 then "-" else "+"
  let exponent := Text.ofNat d.magnitude.natAbs
  d.numeral.take 1 ++ fraction ++ "e" ++ sign ++ zeros (2 - exponent.length) ++ exponent

/-- Positional from the fourth place after the point to the sixteenth before it. -/
def written (d : Decimal) : Text :=
  if -4 ≤ d.magnitude ∧ d.magnitude < 16 then d.positional else d.scientific

end Decimal

/-- The text of a floating-point number. -/
def Text.ofFloat (x : Float) : Text :=
  if x.isNaN then "nan"
  else
    let sign : Text := if x.toBits >>> 63 = 1 then "-" else []
    let magnitude : Text :=
      if x.isInf then "inf"
      else if x == 0 then "0.0"
      else (Binary.ofBits x.toBits).shortest.written
    sign ++ magnitude

end SchemaNaming
