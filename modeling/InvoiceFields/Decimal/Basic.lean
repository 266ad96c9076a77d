import InvoiceFields.Powers
import InvoiceFields.Text.Digit

/-!
# Decimal numbers of bounded size

A `Decimal` is `coefficient / 10 ^ scale` with at most 28 fraction digits and a coefficient of
fewer than 97 bits. Two decimals of one value may differ in scale (`1.5` and `1.50`), and the
scale is shown: `text` writes exactly `scale` fraction digits. Zero has no sign.
-/

namespace InvoiceFields

/-- A decimal number with its number of fraction digits. -/
structure Decimal where
  coefficient : Int
  scale : Nat
  coefficient_lt : coefficient.natAbs < twoTo 96
  scale_le : scale ≤ 28
deriving DecidableEq, Repr

namespace Decimal

/-- The decimal of a coefficient and a scale, if both are in range. -/
def ofParts? (coefficient : Int) (scale : Nat) : Option Decimal :=
  if h : coefficient.natAbs < twoTo 96 ∧ scale ≤ 28 then
    some ⟨coefficient, scale, h.1, h.2⟩
  else none

/-- The number of a sign and an absolute value. -/
def signed (negative : Bool) (n : Nat) : Int := if negative then -(n : Int) else n

instance : Inhabited Decimal := ⟨⟨0, 0, by decide, by decide⟩⟩

/-- The number zero, without fraction digits. -/
def zero : Decimal := ⟨0, 0, by decide, by decide⟩

/-- The number one, without fraction digits. -/
def one : Decimal := ⟨1, 0, by decide, by decide⟩

/-- The number one hundred, without fraction digits. -/
def hundred : Decimal := ⟨100, 0, by decide, by decide⟩

/-- The absolute value of the coefficient. -/
def magnitude (d : Decimal) : Nat := d.coefficient.natAbs

/-- Whether the number is below zero. -/
def isNegative (d : Decimal) : Bool := decide (d.coefficient < 0)

/-- The number with the opposite sign. -/
def neg (d : Decimal) : Decimal :=
  ⟨-d.coefficient, d.scale, by rw [Int.natAbs_neg]; exact d.coefficient_lt, d.scale_le⟩

/-- The order of the values, whatever the scales. -/
def compareValue (a b : Decimal) : Ordering :=
  compare (a.coefficient * tenTo b.scale) (b.coefficient * tenTo a.scale)

/-! ### Writing -/

/-- The digits of a number in base ten. -/
def digits (n : Nat) : List Char := Nat.toDigits 10 n

/-- The digits of an integer, behind a sign if it is negative. -/
def integerChars (i : Int) : List Char :=
  if i < 0 then '-' :: digits i.natAbs else digits i.natAbs

/-- The text of a number of things. -/
def countText (n : Nat) : String := String.ofList (digits n)

/-- The text of an integer. -/
def integerText (i : Int) : String := String.ofList (integerChars i)

/-- A digit sequence of at least `width` digits, filled up with zeros in front. -/
def padLeft (width : Nat) (ds : List Char) : List Char :=
  List.replicate (width - ds.length) '0' ++ ds

/-- All digits of the absolute value, at least one of them in front of the fraction. -/
def allDigits (d : Decimal) : List Char := padLeft (d.scale + 1) (digits d.magnitude)

/-- The digits in front of the decimal point. -/
def wholeDigits (d : Decimal) : List Char := d.allDigits.take (d.allDigits.length - d.scale)

/-- The digits behind the decimal point, `scale` of them. -/
def fractionDigits (d : Decimal) : List Char := d.allDigits.drop (d.allDigits.length - d.scale)

/-- The text of a number as a list of characters. -/
def chars (d : Decimal) : List Char :=
  (if d.isNegative then ['-'] else []) ++ d.wholeDigits ++
    (if d.scale = 0 then [] else '.' :: d.fractionDigits)

/-- The text of a number: a sign if it is negative, its digits, and a point in front of the
`scale` last ones. -/
def text (d : Decimal) : String := String.ofList d.chars

end Decimal

end InvoiceFields
