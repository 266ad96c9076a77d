import InvoiceFields.Decimal.Quotient

/-!
# Rounding to places

`roundHalfUp` shortens the fraction, a half going away from zero. `withPlaces` lengthens it with
zeros as far as the coefficient has room. `normalize` removes every trailing zero.
-/

namespace InvoiceFields.Decimal

/-- The number with at most `places` fraction digits, rounded to the nearest, a half away from
zero. -/
def roundHalfUp (d : Decimal) (places : Nat) : Decimal :=
  if d.scale ≤ places then d
  else
    let k := d.scale - places
    let q := d.magnitude / tenTo k
    let n := if tenTo k ≤ 2 * (d.magnitude % tenTo k) then q + 1 else q
    (ofParts? (signed d.isNegative n) places).getD d

/-- The number with zeros behind its fraction, up to `places` fraction digits or as many as the
coefficient has room for. -/
def withPlaces (d : Decimal) (places : Nat) : Decimal :=
  let k := headroom d.magnitude (places - d.scale)
  (ofParts? (d.coefficient * tenTo k) (d.scale + k)).getD d

/-- Removes all trailing zeros of a fraction. -/
def stripZeros (n : Nat) : Nat → Nat × Nat
  | 0 => (n, 0)
  | scale + 1 => if n % 10 = 0 then stripZeros (n / 10) scale else (n, scale + 1)

/-- The same value with the least scale. -/
def normalize (d : Decimal) : Decimal :=
  let (n, scale) := stripZeros d.magnitude d.scale
  (ofParts? (signed d.isNegative n) scale).getD d

end InvoiceFields.Decimal
