import InvoiceFields.Decimal.Rounding

/-!
# Reading decimals

A number is written as a sign, digits with at most one point, and an exponent, all but one digit
being optional; underscores may stand behind the first digit. Fraction digits that do not fit
are rounded away at the first of them; digits before the point that do not fit make the text
unreadable. An exponent moves the point by at most 28 places, and fraction digits that it moves
beyond the 28th are rounded away.
-/

open InvoiceFields.Text

namespace InvoiceFields.Decimal

/-! ### Digits -/

/-- Rounds a coefficient by the first digit that has no room. A coefficient that leaves its
range loses a further digit. -/
def roundByDigit? (n scale digit : Nat) : Option (Nat × Nat) :=
  if digit < 5 then some (n, scale)
  else if n + 1 < twoTo 96 then some (n + 1, scale)
  else if scale = 0 then none
  else some ((n + 5) / 10, scale - 1)

/-- Whether a character may stand behind the first fraction digit that has no room. -/
def isSpare (c : Char) : Bool := isAsciiDigit c || c == '_'

/-- Reads digits, underscores and one point. `started` tells whether a digit has been seen,
`point` whether the point has; the result is the coefficient and the scale. -/
def readDigits? (started point : Bool) (n scale : Nat) : List Char → Option (Nat × Nat)
  | [] => if started then some (n, scale) else none
  | c :: cs =>
    if isAsciiDigit c then
      if n * 10 + digitValue c < twoTo 96 ∧ scale < 28 then
        readDigits? true point (n * 10 + digitValue c) (if point then scale + 1 else 0) cs
      else if point && cs.all isSpare then roundByDigit? n scale (digitValue c)
      else none
    else if c = '.' && !point then readDigits? started true n scale cs
    else if c = '_' && started then readDigits? started point n scale cs
    else none

/-- A text split into its sign and the rest. -/
def splitSign : List Char → Bool × List Char
  | '-' :: cs => (true, cs)
  | '+' :: cs => (false, cs)
  | cs => (false, cs)

/-- Reads a number without exponent. -/
def readPlain? (cs : List Char) : Option Decimal := do
  let (negative, rest) := splitSign cs
  let (n, scale) ← readDigits? false false 0 0 rest
  ofParts? (signed negative n) scale

/-! ### Exponents -/

/-- Reads the digits of an exponent, behind a plus sign or not. -/
def readPlaces? : List Char → Option Nat
  | '+' :: cs => readNat? cs
  | cs => readNat? cs

/-- Reads an exponent. Its minus sign stands in front of a plus sign. -/
def readExponent? : List Char → Option (Bool × Nat)
  | '-' :: cs => (readPlaces? cs).map (true, ·)
  | cs => (readPlaces? cs).map (false, ·)

/-- The number times `10 ^ places`, if it is in range. -/
def shiftUp? (d : Decimal) (places : Nat) : Option Decimal :=
  ofParts? (d.coefficient * tenTo (places - d.scale)) (d.scale - places)

/-- The number divided by `10 ^ places`, with at most 28 fraction digits. -/
def shiftDown? (d : Decimal) (places : Nat) : Option Decimal :=
  let kept := d.roundHalfUp (28 - places)
  ofParts? kept.coefficient (kept.scale + places)

/-- Reads a number, with or without exponent. -/
def readChars? (cs : List Char) : Option Decimal :=
  match cs.dropWhile (fun c => c != 'e' && c != 'E') with
  | [] => readPlain? cs
  | _ :: exponent => do
    let d ← readPlain? (cs.takeWhile fun c => c != 'e' && c != 'E')
    let (negative, places) ← readExponent? exponent
    if 28 < places then none
    else if negative then d.shiftDown? places
    else d.shiftUp? places

/-- Reads a number. -/
def read? (s : String) : Option Decimal := readChars? s.toList

end InvoiceFields.Decimal
