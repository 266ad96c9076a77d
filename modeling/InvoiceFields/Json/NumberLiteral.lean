import InvoiceFields.Binary64.Shortest
import InvoiceFields.Json.Basic
import InvoiceFields.Json.Fault
import InvoiceFields.Text.Digit

/-!
# Number literals of JSON

A literal is a sign, whole digits without a leading zero, a fraction and an exponent. Without
fraction and exponent it is an integer if it fits 64 bits; otherwise it is a binary number,
computed from the digits that fit 64 bits and a power of ten by one rounded multiplication or
division for every 308 decimal places.
-/

open InvoiceFields.Text

namespace InvoiceFields.Json.NumberLiteral

/-- The parts of a literal. -/
structure Parts where
  negative : Bool
  whole : List Char
  fraction : List Char
  /-- The sign and the digits of the exponent. -/
  exponent : Option (Bool × List Char)
  /-- Whether there is neither a fraction nor an exponent. -/
  isWhole : Bool
deriving Repr, DecidableEq

/-! ### Grammar -/

/-- The fault of a literal that goes on with something other than a digit. -/
def noDigit : List Char → Fault
  | [] => .ended
  | _ => .malformed .number

/-- Splits off one digit or more. -/
def digits (cs : List Char) : Except Fault (List Char × List Char) :=
  if cs.head?.any isAsciiDigit then .ok (cs.takeWhile isAsciiDigit, cs.dropWhile isAsciiDigit)
  else .error (noDigit cs)

/-- Splits off whole digits. A zero stands alone. -/
def wholeDigits : List Char → Except Fault (List Char × List Char)
  | '0' :: cs => if cs.head?.any isAsciiDigit then .error (.malformed .number) else .ok (['0'], cs)
  | cs => digits cs

/-- Splits off a point and the digits behind it, if there is a point. -/
def fractionDigits : List Char → Except Fault (List Char × List Char)
  | '.' :: cs => digits cs
  | cs => .ok ([], cs)

/-- Splits off a sign. -/
def sign : List Char → Bool × List Char
  | '-' :: cs => (true, cs)
  | '+' :: cs => (false, cs)
  | cs => (false, cs)

/-- Splits off an exponent, if there is one. -/
def exponentPart : List Char → Except Fault (Option (Bool × List Char) × List Char)
  | c :: cs =>
    if c = 'e' ∨ c = 'E' then do
      let (negative, rest) := sign cs
      let (ds, rest) ← digits rest
      return (some (negative, ds), rest)
    else .ok (none, c :: cs)
  | [] => .ok (none, [])

/-- Splits off a literal behind its sign. -/
def scan (negative : Bool) (cs : List Char) : Except Fault (Parts × List Char) := do
  let (whole, afterWhole) ← wholeDigits cs
  let (fraction, afterFraction) ← fractionDigits afterWhole
  let (exponent, rest) ← exponentPart afterFraction
  return (⟨negative, whole, fraction, exponent, fraction.isEmpty && exponent.isNone⟩, rest)

/-! ### Value -/

/-- Appends digits to a number as long as it fits 64 bits; the second part counts the digits that
are left over. -/
def accumulate (n : Nat) : List Char → Nat × Nat
  | [] => (n, 0)
  | c :: cs =>
    if n * 10 + digitValue c < twoTo 64 then accumulate (n * 10 + digitValue c) cs
    else (n, cs.length + 1)

/-- A number divided by `10 ^ 308` again and again. -/
def shrink (x : Binary64) : Nat → Binary64
  | 0 => x
  | n + 1 => if x.isZero then x else shrink (x.div (.powerOfTen 308)) n

/-- A significand times a power of ten, unless it is out of range. -/
def scale? (significand : Nat) (exponent : Int) : Option Binary64 :=
  let x := (Binary64.nearest? significand 1).getD .zero
  if 308 < exponent then if x.isZero then some x else none
  else if 0 ≤ exponent then x.mul? (.powerOfTen exponent.toNat)
  else
    let places := exponent.natAbs
    let steps := (places - 1) / 308
    some ((shrink x steps).div (.powerOfTen (places - 308 * steps)))

/-- The binary number of a significand and an exponent, to which a written exponent is added. One
of more than 31 bits is out of range, except that a negative one leaves nothing of the number. -/
def real? (significand : Nat) (exponent : Int) : Option (Bool × List Char) → Option Binary64
  | none => scale? significand exponent
  | some (negative, ds) =>
    let k := digitsValue ds
    if k < twoTo 31 then scale? significand (if negative then exponent - k else exponent + k)
    else if significand = 0 ∨ negative then some .zero
    else none

/-- The number that a literal stands for. -/
def Parts.number (p : Parts) : Except Fault Number :=
  let (n, left) := accumulate 0 p.whole
  if p.isWhole ∧ left = 0 ∧ (p.negative = false ∨ 0 < n ∧ n ≤ twoTo 63) then
    .ok (.integer (if p.negative then -(n : Int) else n))
  else
    let (significand, unread) := accumulate n p.fraction
    match real? significand (left - (p.fraction.length - unread : Nat)) p.exponent with
    | some x => .ok (.real (x.withSign p.negative))
    | none => .error (.malformed .numberRange)

/-! ### Writing -/

/-- The digits of a number. -/
def write : Number → List Char
  | .integer i => Decimal.integerChars i
  | .real x => x.scientific.toList

end InvoiceFields.Json.NumberLiteral
