import InvoiceFields.Decimal.Basic
import InvoiceFields.Text.Blank

/-!
# Durations

A duration is counted in nanoseconds and shown in the largest unit that it reaches, with as many
decimals as it needs.
-/

namespace InvoiceFields.Duration

/-- A number of nanoseconds in a unit of `10 ^ places` of them. -/
def inUnit (nanoseconds places : Nat) (unit : String) : String :=
  let fraction := Decimal.padLeft places (Decimal.digits (nanoseconds % tenTo places))
  let kept := Text.dropEndWhile (· == '0') fraction
  String.ofList (Decimal.digits (nanoseconds / tenTo places) ++
    (if places = 0 ∨ kept.isEmpty then [] else '.' :: kept)) ++ unit

/-- A duration with its unit. -/
def text (nanoseconds : Nat) : String :=
  if tenTo 9 ≤ nanoseconds then inUnit nanoseconds 9 "s"
  else if tenTo 6 ≤ nanoseconds then inUnit nanoseconds 6 "ms"
  else if tenTo 3 ≤ nanoseconds then inUnit nanoseconds 3 "µs"
  else inUnit nanoseconds 0 "ns"

/-- The whole milliseconds of a duration. -/
def milliseconds (nanoseconds : Nat) : Nat := nanoseconds / tenTo 6

end InvoiceFields.Duration
