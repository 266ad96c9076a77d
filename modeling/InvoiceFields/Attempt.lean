import InvoiceFields.Amount
import InvoiceFields.Date
import InvoiceFields.Extraction
import InvoiceFields.Plate
import InvoiceFields.Rule
import InvoiceFields.Settings

/-!
# Attempts at a field

An `Attempt` is a rule together with a condition on its value. The value of an attempt that
succeeds becomes an amount in a monetary field and a text in any other; the receiver's own
identifier is never an issuer's.
-/

namespace InvoiceFields

/-- A condition on a text. -/
inductive Validator where
  | plate
  | taxId
  | date
  | amount
  | nonEmpty
deriving Repr, DecidableEq

namespace Validator

/-- The conditions in the order of their declaration. -/
def all : List Validator := [plate, taxId, date, amount, nonEmpty]

/-- The name of a condition. -/
def name : Validator → String
  | plate => "plate"
  | taxId => "tax_id"
  | date => "date"
  | amount => "amount"
  | nonEmpty => "non_empty"

/-- The condition of a name. -/
def ofName? (s : String) : Option Validator := all.find? (·.name == s)

/-- Whether a text meets a condition. -/
def accepts (s : String) : Validator → Bool
  | plate => Plate.isPlate s
  | taxId => TaxId.isTaxId s
  | date => Date.occursIn s
  | amount => (Amount.normalize? s).isSome
  | nonEmpty => !Text.blankOnly s

end Validator

/-- A rule and the condition that its value has to meet. -/
structure Attempt where
  rule : Rule
  validator : Option Validator
deriving Repr, DecidableEq

/-- Whether a value may fill a field: the receiver's identifier is no issuer's. -/
def Settings.accepts (settings : Settings) (f : Field) : FieldValue → Bool
  | .amount _ => true
  | .text s => !(f == .issuerTaxId && settings.isReceiver s)

/-- The value that a text gives to a field. -/
def Field.value? (f : Field) (s : String) : Option FieldValue :=
  if f.isMonetary then (Amount.normalize? s).map .amount else some (.text s)

namespace Attempt

/-- The attempt that never succeeds. -/
def inert : Attempt := ⟨.unsupported, none⟩

/-- The value of a field according to an attempt. -/
def value? (doc : Document) (settings : Settings) (f : Field) (a : Attempt) :
    Option FieldValue := do
  let s ← a.rule.evaluate? doc
  if a.validator.all (·.accepts s) then (f.value? s).filter (settings.accepts f) else none

/-- The value of a field according to the first attempt that succeeds. -/
def firstValue? (doc : Document) (settings : Settings) (f : Field) (attempts : List Attempt) :
    Option FieldValue :=
  attempts.findSome? (value? doc settings f)

end Attempt

end InvoiceFields
