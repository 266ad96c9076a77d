import InvoiceFields.TaxId

/-!
# Settings of an extraction

`Settings` hold what every extraction of a run needs to know: who receives the invoices, how far
down the issuer's name is looked for, and whether the control characters of tax identifiers
must be right.
-/

namespace InvoiceFields

/-- Settings that all extractions of a run share. -/
structure Settings where
  /-- The tax identifier of the party that receives the invoices. -/
  receiver : Option String
  /-- The number of lines at the top that may name the issuer. -/
  headerLines : Nat
  /-- Whether control characters of tax identifiers must be right. -/
  validated : Bool
deriving Repr, DecidableEq

namespace Settings

/-- No receiver, ten header lines, and control characters of any kind. -/
def standard : Settings := ⟨none, 10, false⟩

instance : Inhabited Settings := ⟨standard⟩

/-- Whether an identifier is the receiver's own. -/
def isReceiver (s : Settings) (id : String) : Bool := s.receiver.any (TaxId.same · id)

/-- The search for identifiers other than the receiver's. -/
def search (s : Settings) : TaxId.Search := .excluding s.validated s.receiver

end Settings

end InvoiceFields
