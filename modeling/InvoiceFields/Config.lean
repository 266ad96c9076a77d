import InvoiceFields.Pipeline

/-!
# Configuration

What a user can configure: how invoices are extracted and how a batch of files is processed. Each
part has a default.
-/

namespace InvoiceFields

/-- How invoices are extracted. -/
structure ExtractionConfig where
  rate : VatRate
  /-- The tax identifier of the party that receives the invoices. -/
  receiver : Option String
  /-- The number of lines at the top that may name the issuer. -/
  headerLines : Nat
  /-- Whether control characters of tax identifiers must be right. -/
  validated : Bool
  /-- The file that holds the rules. -/
  rulesPath : Option String
deriving Repr, DecidableEq

/-- How a batch of files is processed. -/
structure BatchConfig where
  /-- The number of documents processed at a time. -/
  jobs : Nat
  /-- The extensions of the files that are documents. -/
  extensions : List String
deriving Repr, DecidableEq

/-- The whole configuration. -/
structure Config where
  extraction : ExtractionConfig
  batch : BatchConfig
deriving Repr, DecidableEq

/-- The default of the extraction. -/
def ExtractionConfig.standard : ExtractionConfig := ⟨.general, none, 10, false, none⟩

/-- The default of a batch. -/
def BatchConfig.standard : BatchConfig := ⟨4, ["txt"]⟩

/-- The default configuration. -/
def Config.standard : Config := ⟨.standard, .standard⟩

instance : Inhabited Config := ⟨.standard⟩

/-- The settings of a run. A blank receiver is none. -/
def ExtractionConfig.settings (c : ExtractionConfig) : Settings :=
  ⟨c.receiver.filter (!Text.blankOnly ·), c.headerLines, c.validated⟩

/-- The pipeline of a configuration. -/
def ExtractionConfig.pipeline (c : ExtractionConfig) (registry : Registry) : Pipeline :=
  ⟨registry, c.settings, c.rate⟩

end InvoiceFields
