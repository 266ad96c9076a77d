import InvoiceFields.Decimal.Arithmetic

/-!
# Quotients

Long division in base ten, several digits at a time, until the remainder is zero, the scale is
exhausted or the coefficient is full; the rest is rounded to the nearest, a half to the even
neighbour. A quotient that needed further digits is then freed of trailing zeros, eight at a
time only where the coefficient is also a multiple of `2 ^ 32`, and at most seven after that.
-/

namespace InvoiceFields.Decimal

/-- The largest `x ≤ limit` for which `n * 10 ^ x` is still a coefficient. -/
def headroom (n : Nat) : Nat → Nat
  | 0 => 0
  | limit + 1 => if n * tenTo (limit + 1) < twoTo 96 then limit + 1 else headroom n limit

theorem headroom_le (n limit : Nat) : headroom n limit ≤ limit := by
  induction limit with
  | zero => simp [headroom]
  | succ k ih => unfold headroom; split <;> omega

/-- Brings a coefficient that has just left its range back by one digit. A half goes to the
even neighbour unless more was dropped before (`inexact`). -/
def stepBack? (n : Nat) (scale : Int) (inexact : Bool) : Option (Nat × Int) :=
  if scale < 1 then none
  else
    let q := n / 10
    let r := n % 10
    some (if 5 < r ∨ (r = 5 ∧ (inexact ∨ q % 2 = 1)) then q + 1 else q, scale - 1)

/-- Rounds a quotient by its remainder. -/
def roundQuotient? (q r divisor : Nat) (scale : Int) : Option (Nat × Int) :=
  if divisor < 2 * r ∨ (2 * r = divisor ∧ q % 2 = 1) then
    if q + 1 < twoTo 96 then some (q + 1, scale) else stepBack? (q + 1) scale true
  else some (q, scale)

/-- Extends the quotient `q` with remainder `r` by further digits. The result tells the
coefficient, its scale, and whether digits beyond the first division were needed. -/
def extend? (divisor q r : Nat) (scale : Int) (extended : Bool) :
    Option (Nat × Int × Bool) :=
  if r = 0 then
    if 0 ≤ scale then some (q, scale, extended)
    else
      let x := min 9 (-scale).toNat
      if q * tenTo x < twoTo 96 then extend? divisor (q * tenTo x) 0 (scale + x) extended else none
  else if 28 ≤ scale then
    (roundQuotient? q r divisor scale).map fun (n, s) => (n, s, true)
  else
    let x := headroom q (min 9 (28 - scale).toNat)
    if x < 9 ∧ scale + x < 0 then none
    else if x = 0 then (roundQuotient? q r divisor scale).map fun (n, s) => (n, s, true)
    else
      let q' := q * tenTo x + r * tenTo x / divisor
      let r' := r * tenTo x % divisor
      if q' < twoTo 96 then extend? divisor q' r' (scale + x) true
      else (stepBack? q' (scale + x) (decide (r' ≠ 0))).map fun (n, s) => (n, s, true)
termination_by (28 - scale).toNat
decreasing_by
  all_goals omega

/-- Removes eight trailing zeros while the coefficient is a multiple of `2 ^ 32` too. -/
def dropEights (n : Nat) (scale : Nat) : Nat × Nat :=
  if h : n % twoTo 32 = 0 ∧ 8 ≤ scale ∧ n % tenTo 8 = 0 then dropEights (n / tenTo 8) (scale - 8)
  else (n, scale)
termination_by scale

/-- Removes `k` trailing zeros if there are so many. -/
def dropZeros (k : Nat) (ns : Nat × Nat) : Nat × Nat :=
  if k ≤ ns.2 ∧ ns.1 % tenTo k = 0 then (ns.1 / tenTo k, ns.2 - k) else ns

/-- Removes the trailing zeros that the digits added to a quotient may have left. -/
def dropTrailing (n scale : Nat) : Nat × Nat :=
  dropZeros 1 (dropZeros 2 (dropZeros 4 (dropEights n scale)))

/-- The quotient, if the divisor is not zero and the quotient is in range. -/
def div? (a b : Decimal) : Option Decimal :=
  if b.coefficient = 0 then none
  else if a.coefficient = 0 then some zero
  else do
    let (n, scale, extended) ← extend? b.magnitude (a.magnitude / b.magnitude)
      (a.magnitude % b.magnitude) ((a.scale : Int) - b.scale) false
    let (n, scale) := if extended then dropTrailing n scale.toNat else (n, scale.toNat)
    ofParts? (signed (a.isNegative != b.isNegative) n) scale

end InvoiceFields.Decimal
