import InvoiceFields.Decimal.Basic

/-!
# Sums, differences and products

The exact result is formed first; when its coefficient or its scale is out of range, the fewest
last digits that bring both into range are rounded away, a half going to the even neighbour.
A result whose digits before the point do not fit has no decimal.
-/

namespace InvoiceFields.Decimal

/-- `n / 10 ^ k` rounded to the nearest integer, a half to the even one. -/
def roundHalfEven (n k : Nat) : Nat :=
  let q := n / tenTo k
  let r := n % tenTo k
  if tenTo k < 2 * r ∨ (2 * r = tenTo k ∧ q % 2 = 1) then q + 1 else q

/-- The decimal nearest to `coefficient / 10 ^ scale` that drops the fewest fraction digits. -/
def fit? (coefficient : Int) (scale : Nat) : Option Decimal :=
  ((List.range (scale + 1)).drop (scale - 28)).findSome? fun k =>
    ofParts? (signed (decide (coefficient < 0)) (roundHalfEven coefficient.natAbs k)) (scale - k)

/-- The sum, if it is in range. Adding zero leaves the other number as it is. -/
def add? (a b : Decimal) : Option Decimal :=
  if a.coefficient = 0 then some b
  else if b.coefficient = 0 then some a
  else
    let scale := max a.scale b.scale
    fit? (a.coefficient * tenTo (scale - a.scale) + b.coefficient * tenTo (scale - b.scale)) scale

/-- The difference, if it is in range. -/
def sub? (a b : Decimal) : Option Decimal := a.add? b.neg

/-- The product, if it is in range. A product by zero is plain zero, and so is one of two short
coefficients that lies far below the last fraction digit. -/
def mul? (a b : Decimal) : Option Decimal :=
  if a.coefficient = 0 ∨ b.coefficient = 0 then some zero
  else if a.magnitude < twoTo 32 ∧ b.magnitude < twoTo 32 ∧ 47 < a.scale + b.scale then some zero
  else fit? (a.coefficient * b.coefficient) (a.scale + b.scale)

end InvoiceFields.Decimal
