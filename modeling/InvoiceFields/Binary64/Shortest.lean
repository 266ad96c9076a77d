import InvoiceFields.Binary64.Basic
import InvoiceFields.Decimal.Basic

/-!
# Shortest decimal texts

Every number has an interval of reals that are rounded to it. `shortest` finds the decimal with
the fewest digits inside that interval, the closest one if there are several. `positional` writes
it without an exponent; `scientific` writes very large and very small ones with an exponent.
-/

namespace InvoiceFields.Binary64

/-! ### Digits -/

/-- Whether the decimal `n * 10 ^ exponent` is rounded to a number other than zero. The ends of
the interval are taken in if the significand is even. -/
def roundsTo (x : Binary64) (n : Nat) (exponent : Int) : Bool :=
  let below := if x.significand = twoTo 52 ∧ 0 < x.exponent then 1 else 2
  let scale := twoTo x.exponent
  let low := (4 * x.significand - below) * scale
  let high := (4 * x.significand + 2) * scale
  let num := 4 * n * one * tenTo exponent.toNat
  let den := tenTo (-exponent).toNat
  if x.significand % 2 = 0 then decide (low * den ≤ num ∧ num ≤ high * den)
  else decide (low * den < num ∧ num < high * den)

/-- The quotient of a number by `10 ^ exponent`, as a numerator and a denominator. -/
def overPowerOfTen (x : Binary64) (exponent : Int) : Nat × Nat :=
  (x.units * tenTo (-exponent).toNat, one * tenTo exponent.toNat)

/-- The decimal with a given exponent that is closest to a number, if it is rounded to the number.
-/
def closest? (x : Binary64) (exponent : Int) : Option Nat :=
  let (num, den) := x.overPowerOfTen exponent
  let n := num / den
  let near := if den < 2 * (num % den) then n + 1 else n
  let far := if den < 2 * (num % den) then n else n + 1
  if x.roundsTo near exponent then some near
  else if x.roundsTo far exponent then some far
  else none

/-- The exponent of the leading decimal digit, counted from `candidate` downwards. -/
def leadingExponent (x : Binary64) : Nat → Int → Int
  | 0, candidate => candidate
  | fuel + 1, candidate =>
    let (num, den) := x.overPowerOfTen candidate
    if den ≤ num then candidate else x.leadingExponent fuel (candidate - 1)

/-- The first exponent, from the given one downwards, at which a decimal is rounded to the
number. -/
def firstClosest (x : Binary64) : Nat → Int → Nat × Int
  | 0, exponent => ((x.closest? exponent).getD 0, exponent)
  | fuel + 1, exponent =>
    match x.closest? exponent with
    | some n => (n, exponent)
    | none => x.firstClosest fuel (exponent - 1)

/-- The decimal of fewest digits that is rounded to a number other than zero: its digits without
zeros at the end, and the exponent of the last one. -/
def shortest (x : Binary64) : List Char × Int :=
  let (n, exponent) := x.firstClosest 17 (x.leadingExponent 634 309)
  let ds := Decimal.digits n
  let kept := (ds.reverse.dropWhile (· == '0')).reverse
  (kept, exponent + (ds.length - kept.length : Nat))

/-! ### Texts -/

/-- Digits with a decimal point such that the last one has the given exponent. -/
def placePoint (ds : List Char) (exponent : Int) : List Char :=
  if 0 ≤ exponent then ds ++ List.replicate exponent.toNat '0'
  else
    let fraction := exponent.natAbs
    let padded := Decimal.padLeft (fraction + 1) ds
    padded.take (padded.length - fraction) ++ '.' :: padded.drop (padded.length - fraction)

/-- The sign of a number as text. -/
def signText (x : Binary64) : List Char := if x.negative then ['-'] else []

/-- The shortest decimal, written without an exponent. -/
def positional (x : Binary64) : String :=
  String.ofList (x.signText ++
    if x.isZero then ['0'] else let (ds, exponent) := x.shortest; placePoint ds exponent)

/-- A text with `.0` behind it if it has no point. -/
def withPoint (cs : List Char) : List Char := if cs.contains '.' then cs else cs ++ ['.', '0']

/-- Digits with a point behind the first one and the exponent of the first one. -/
def withExponent (ds : List Char) (exponent : Int) : List Char :=
  match ds with
  | [] => []
  | [d] => d :: 'e' :: Decimal.integerChars exponent
  | d :: rest => d :: '.' :: rest ++ 'e' :: Decimal.integerChars exponent

/-- The shortest decimal, written with an exponent if it is `10 ^ 16` or more, or less than
`10 ^ -5`. A number without fraction ends in `.0`. -/
def scientific (x : Binary64) : String :=
  String.ofList (x.signText ++
    if x.isZero then "0.0".toList
    else
      let (ds, exponent) := x.shortest
      let point := exponent + ds.length
      if -5 < point ∧ point ≤ 16 then withPoint (placePoint ds exponent)
      else withExponent ds (point - 1))

end InvoiceFields.Binary64
