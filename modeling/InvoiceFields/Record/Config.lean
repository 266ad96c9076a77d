import InvoiceFields.Config
import InvoiceFields.Record.Registry

/-!
# Configurations in JSON

Each part of a configuration may be missing and then has its default. Members that are unknown
are passed over.
-/

namespace InvoiceFields

open Json (Fault Tree Slot)

/-! ### Reading -/

/-- The parts of an extraction configuration that have been read. -/
structure ExtractionParts where
  rate : Option VatRate
  receiver : Option (Option String)
  headerLines : Option Nat
  validated : Option Bool
  rulesPath : Option (Option String)

/-- The parts of an extraction configuration in order. -/
def ExtractionParts.slots : List (Slot ExtractionParts) := [
  .part "vat_rate" rate (fun s x => { s with rate := some x }) VatRate.ofTree,
  .part "receiver_tax_id" receiver (fun s x => { s with receiver := some x })
    (Tree.optional Tree.text),
  .part "header_scan_lines" headerLines (fun s x => { s with headerLines := some x }) Tree.count,
  .part "validate_tax_ids" validated (fun s x => { s with validated := some x }) Tree.flag,
  .part "rules_path" rulesPath (fun s x => { s with rulesPath := some x })
    (Tree.optional Tree.text)]

/-- Reads the configuration of the extraction. -/
def ExtractionConfig.ofTree (t : Tree) : Except Fault ExtractionConfig := do
  let s ← t.record ExtractionParts.slots ⟨none, none, none, none, none⟩
  return ⟨s.rate.getD standard.rate, s.receiver.getD standard.receiver,
    s.headerLines.getD standard.headerLines, s.validated.getD standard.validated,
    s.rulesPath.getD standard.rulesPath⟩

/-- The parts of a batch configuration that have been read. -/
structure BatchParts where
  jobs : Option Nat
  extensions : Option (List String)

/-- The parts of a batch configuration in order. -/
def BatchParts.slots : List (Slot BatchParts) := [
  .part "jobs" jobs (fun s x => { s with jobs := some x }) Tree.count,
  .part "extensions" extensions (fun s x => { s with extensions := some x })
    (Tree.list Tree.text)]

/-- Reads the configuration of a batch. -/
def BatchConfig.ofTree (t : Tree) : Except Fault BatchConfig := do
  let s ← t.record BatchParts.slots ⟨none, none⟩
  return ⟨s.jobs.getD standard.jobs, s.extensions.getD standard.extensions⟩

/-- The parts of a configuration that have been read. -/
structure ConfigParts where
  extraction : Option ExtractionConfig
  batch : Option BatchConfig

/-- The parts of a configuration in order. -/
def ConfigParts.slots : List (Slot ConfigParts) := [
  .part "extraction" extraction (fun s x => { s with extraction := some x })
    ExtractionConfig.ofTree,
  .part "batch" batch (fun s x => { s with batch := some x }) BatchConfig.ofTree]

/-- Reads a configuration. -/
def Config.ofTree (t : Tree) : Except Fault Config := do
  let s ← t.record ConfigParts.slots ⟨none, none⟩
  return ⟨s.extraction.getD .standard, s.batch.getD .standard⟩

/-- Reads the text of a configuration. -/
def Config.ofText (text : String) : Except Fault Config := Json.decode ofTree text

/-! ### Writing -/

/-- The JSON value of a number of things. -/
def Json.ofNat (n : Nat) : Json := .ofInt n

/-- The configuration of the extraction as JSON. -/
def ExtractionConfig.toJson (c : ExtractionConfig) : Json := .object [
  ("vat_rate", c.rate.toJson),
  ("receiver_tax_id", .ofOption .string c.receiver),
  ("header_scan_lines", .ofNat c.headerLines),
  ("validate_tax_ids", .bool c.validated),
  ("rules_path", .ofOption .string c.rulesPath)]

/-- The configuration of a batch as JSON. -/
def BatchConfig.toJson (c : BatchConfig) : Json := .object [
  ("jobs", .ofNat c.jobs),
  ("extensions", .array (c.extensions.map .string))]

/-- A configuration as JSON. -/
def Config.toJson (c : Config) : Json := .object [
  ("extraction", c.extraction.toJson),
  ("batch", c.batch.toJson)]

end InvoiceFields
