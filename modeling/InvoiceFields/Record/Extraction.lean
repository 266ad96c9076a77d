import InvoiceFields.Extraction
import InvoiceFields.Json.Basic

/-!
# Extractions in JSON

An extraction is an object with the resolved fields in output order. Amounts are written as texts,
so that no digit is lost.
-/

namespace InvoiceFields

/-- A value as JSON. -/
def FieldValue.toJson (v : FieldValue) : Json := .string v.shown

/-- An extraction as JSON. -/
def Extraction.toJson (e : Extraction) : Json :=
  .object (e.entries.map fun (f, v) => (f.key, v.toJson))

end InvoiceFields
