import InvoiceFields.Powers

/-!
# Binary numbers of 64 bits

A finite `Binary64` is a signed multiple of `2 ^ -1074`, written as a significand of at most 53
bits and an exponent. `nearest?` rounds a fraction to the closest such number, a tie going to the
even significand; products and quotients are rounded from their exact values.
-/

namespace InvoiceFields

/-- The finite number `± significand * 2 ^ exponent`, in units of `2 ^ -1074`. -/
structure Binary64 where
  negative : Bool
  significand : Nat
  exponent : Nat
  significand_lt : significand < twoTo 53
  exponent_le : exponent ≤ 2045
  normal : exponent = 0 ∨ twoTo 52 ≤ significand
deriving Repr, DecidableEq

namespace Binary64

/-- The number of a significand and an exponent, if both are in range. -/
def ofParts? (significand exponent : Nat) : Option Binary64 :=
  if h : significand < twoTo 53 ∧ exponent ≤ 2045 ∧ (exponent = 0 ∨ twoTo 52 ≤ significand) then
    some ⟨false, significand, exponent, h.1, h.2.1, h.2.2⟩
  else none

/-- Zero without a sign. -/
def zero : Binary64 := ⟨false, 0, 0, by decide, by decide, by decide⟩

instance : Inhabited Binary64 := ⟨zero⟩

/-- The number with a sign. -/
def withSign (x : Binary64) (negative : Bool) : Binary64 := { x with negative := negative }

/-- Whether a number is zero, with or without a sign. -/
def isZero (x : Binary64) : Bool := x.significand == 0

/-- The absolute value in units of `2 ^ -1074`. -/
def units (x : Binary64) : Nat := x.significand * twoTo x.exponent

/-- The number of units in one. -/
def one : Nat := twoTo 1074

/-- A quotient rounded to the nearest whole number, a half to the even neighbour. -/
def roundQuotient (num den : Nat) : Nat :=
  let q := num / den
  let r := num % den
  if den < 2 * r ∨ (2 * r = den ∧ q % 2 = 1) then q + 1 else q

/-- The number closest to a fraction, unless it is out of range. -/
def nearest? (num den : Nat) : Option Binary64 :=
  let exponent := Nat.log2 (num * one / den) - 52
  let significand := roundQuotient (num * one) (den * twoTo exponent)
  if significand = twoTo 53 then ofParts? (twoTo 52) (exponent + 1)
  else ofParts? significand exponent

/-- The number closest to a power of ten. -/
def powerOfTen (k : Nat) : Binary64 := (nearest? (tenTo k) 1).getD zero

/-- The product of the absolute values, unless it is out of range. -/
def mul? (x y : Binary64) : Option Binary64 := nearest? (x.units * y.units) (one * one)

/-- The quotient of the absolute values, zero if the divisor is zero. -/
def div (x y : Binary64) : Binary64 :=
  if y.isZero then zero else (nearest? x.units y.units).getD zero

end Binary64

end InvoiceFields
