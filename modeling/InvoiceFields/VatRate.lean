import InvoiceFields.Amount
import InvoiceFields.Breakdown
import InvoiceFields.ConfigError

/-!
# VAT rates

A rate is a fraction above zero: `0.21` stands for 21 %. It is read as a fraction or as a
percentage, and shown as a percentage.
-/

namespace InvoiceFields

/-- A VAT rate as a fraction above zero. -/
structure VatRate where
  fraction : Decimal
  positive : 0 < fraction.coefficient
deriving Repr, DecidableEq

namespace VatRate

/-- The rate of a fraction, which has to be above zero. -/
def ofFraction (d : Decimal) : Except ConfigError VatRate :=
  if h : 0 < d.coefficient then .ok ⟨d, h⟩ else .error (.invalidVatRate d.text)

/-- The general rate, 21 %. -/
def general : VatRate := ⟨⟨21, 2, by decide, by decide⟩, by decide⟩

instance : Inhabited VatRate := ⟨general⟩

/-- The rate of a whole percentage. -/
def ofPercent (percent : UInt32) : Except ConfigError VatRate :=
  ofFraction ((Decimal.ofParts? percent.toNat 2).getD .zero)

/-- A hundredth of a number. -/
def hundredth (d : Decimal) : Decimal := (d.div? .hundred).getD .zero

/-- Reads a rate. A number with a percent sign, or of one or more, is a percentage. -/
def read (s : String) : Except ConfigError VatRate :=
  let trimmed := Text.trim s
  match Amount.normalize? trimmed with
  | none => .error (.invalidVatRate trimmed)
  | some value =>
    if trimmed.toList.getLast? = some '%' ∨ Decimal.compareValue value .one ≠ .lt then
      ofFraction (hundredth value)
    else ofFraction value

/-- One plus the rate. -/
def gross (r : VatRate) : Except Breakdown Decimal :=
  match Decimal.one.add? r.fraction with
  | some d => .ok d
  | none => .error .outOfRange

/-- The rate as a percentage. -/
def shown (r : VatRate) : Except Breakdown String :=
  match r.fraction.mul? .hundred with
  | some d => .ok (d.normalize.text ++ "%")
  | none => .error .outOfRange

end VatRate

end InvoiceFields
