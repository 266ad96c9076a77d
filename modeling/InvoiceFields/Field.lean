import InvoiceFields.ConfigError
import InvoiceFields.Text.Blank
import InvoiceFields.Text.Case

/-!
# Fields of an invoice

The thirteen fields that an extraction can fill, in output order. A field is named by its key,
whose case and surrounding blanks do not matter when it is read.
-/

namespace InvoiceFields

/-- A field of an invoice. -/
inductive Field where
  | type
  | date
  | invoiceNumber
  | issuer
  | issuerTaxId
  | client
  | clientTaxId
  | vehicleModel
  | vehiclePlate
  | total
  | base
  | tax
  | fees
deriving Repr, DecidableEq

namespace Field

/-- The fields in output order. -/
def all : List Field :=
  [type, date, invoiceNumber, issuer, issuerTaxId, client, clientTaxId, vehicleModel, vehiclePlate,
    total, base, tax, fees]

/-- The key of a field. -/
def key : Field → String
  | type => "type"
  | date => "date"
  | invoiceNumber => "invoice_number"
  | issuer => "issuer"
  | issuerTaxId => "issuer_tax_id"
  | client => "client"
  | clientTaxId => "client_tax_id"
  | vehicleModel => "vehicle_model"
  | vehiclePlate => "vehicle_plate"
  | total => "total"
  | base => "base"
  | tax => "tax"
  | fees => "fees"

/-- Whether a field holds an amount. -/
def isMonetary : Field → Bool
  | total | base | tax | fees => true
  | _ => false

/-- The place of a field in the output order. -/
def index (f : Field) : Nat := all.idxOf f

/-- The field of a key, whatever its case and the blanks around it. -/
def ofKey? (key : String) : Option Field :=
  all.find? fun f => Text.equalIgnoringAsciiCase f.key (Text.trim key)

/-- The field of a key, or the fault that there is none. -/
def ofKey (key : String) : Except ConfigError Field :=
  match ofKey? key with
  | some f => .ok f
  | none => .error (.unknownField key)

end Field

end InvoiceFields
