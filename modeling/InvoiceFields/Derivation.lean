import InvoiceFields.Extraction
import InvoiceFields.VatRate

/-!
# Derived amounts

Base, tax and total of an invoice hang together by the VAT rate. `Amounts.complete` fills in the
missing ones exactly; `derive` does so in an extraction and rounds what it adds to cents.
-/

namespace InvoiceFields

/-- Base, tax and total, each if it is known. -/
structure Amounts where
  base : Option Decimal
  tax : Option Decimal
  total : Option Decimal
deriving Repr, DecidableEq

/-- The base contained in a total, if it is in range. -/
def baseFromTotal (total : Decimal) (rate : VatRate) : Except Breakdown (Option Decimal) := do
  return total.div? (← rate.gross)

/-- The total and the tax of a base, each if it is in range. -/
def totalAndTax (base : Decimal) (rate : VatRate) :
    Except Breakdown (Option Decimal × Option Decimal) := do
  return (base.mul? (← rate.gross), base.mul? rate.fraction)

/-- The amounts with the missing ones filled in. Known amounts stay as they are; the tax alone
says nothing about the others. -/
def Amounts.complete (known : Amounts) (rate : VatRate) : Except Breakdown Amounts :=
  match known.base, known.tax, known.total with
  | some b, t, some total => .ok ⟨b, t.or (total.sub? b), total⟩
  | some b, some t, none => .ok ⟨b, t, b.add? t⟩
  | none, some t, some total => .ok ⟨total.sub? t, t, total⟩
  | none, none, some total => do
    let b ← baseFromTotal total rate
    return ⟨b, b.bind total.sub?, total⟩
  | some b, none, none => do
    let (total, t) ← totalAndTax b rate
    return ⟨b, t, total⟩
  | none, t, none => .ok ⟨none, t, none⟩

namespace Extraction

/-- The amounts an extraction knows. -/
def amounts (e : Extraction) : Amounts := ⟨e.amount? .base, e.amount? .tax, e.amount? .total⟩

/-- The amounts to be added to an extraction, in the order in which they are reported. -/
def additions (e : Extraction) (completed : Amounts) : List (Field × Decimal) :=
  [(Field.total, completed.total), (.base, completed.base), (.tax, completed.tax)].filterMap
    fun (f, value) => if e.contains f then none else value.map (f, Amount.toCents ·)

/-- The extraction with missing amounts derived and rounded to cents, and the fields added. -/
def derive (e : Extraction) (rate : VatRate) : Except Breakdown (Extraction × List Field) := do
  let added := e.additions (← e.amounts.complete rate)
  return (added.foldl (fun e (f, d) => e.set f (.amount d)) e, added.map (·.1))

end Extraction

end InvoiceFields
