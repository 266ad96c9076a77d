import InvoiceFields.Json.Decode
import InvoiceFields.VatRate

/-!
# VAT rates in JSON

A rate is written as the text of its fraction. It is read from such a text, from an integer, or
from a binary number by its shortest decimal text.
-/

namespace InvoiceFields.VatRate

open Json (Fault Tree)

/-- Reads a decimal that is described by a text. -/
def readDecimal (named s : String) : Except Fault Decimal :=
  match Decimal.read? s with
  | some d => .ok d
  | none => .error (.unfit (.value named "a Decimal type representing a fixed-point number"))

/-- The decimal of a number. -/
def decimalOf (n : Json.Number) : Except Fault Decimal :=
  readDecimal n.named <|
    match n with
    | .integer i => Decimal.integerText i
    | .real x => x.positional

/-- Reads a rate. -/
def ofTree (t : Tree) : Except Fault VatRate := do
  let d ← match t with
    | .number value _ => do decimalOf (← value)
    | .string value _ => do
      let s ← value
      readDecimal (Json.textNamed s) s
    | t => .error t.misfit
  match ofFraction d with
  | .ok rate => return rate
  | .error e => .error (.unfit (.config e))

/-- A rate as JSON. -/
def toJson (rate : VatRate) : Json := .string rate.fraction.text

end InvoiceFields.VatRate
