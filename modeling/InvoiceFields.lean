import InvoiceFields.Amount
import InvoiceFields.Attempt
import InvoiceFields.Binary64.Basic
import InvoiceFields.Binary64.Shortest
import InvoiceFields.Breakdown
import InvoiceFields.Command.Action
import InvoiceFields.Command.Batch
import InvoiceFields.Command.Configuration
import InvoiceFields.Command.Document
import InvoiceFields.Command.Invocation
import InvoiceFields.Command.RuleListing
import InvoiceFields.Command.Run
import InvoiceFields.Command.Setup
import InvoiceFields.Command.Usage
import InvoiceFields.Command.Words
import InvoiceFields.Config
import InvoiceFields.ConfigError
import InvoiceFields.Date
import InvoiceFields.Decimal.Arithmetic
import InvoiceFields.Decimal.Basic
import InvoiceFields.Decimal.Quotient
import InvoiceFields.Decimal.Reader
import InvoiceFields.Decimal.Rounding
import InvoiceFields.Derivation
import InvoiceFields.Document
import InvoiceFields.Extraction
import InvoiceFields.Field
import InvoiceFields.Files.Glob
import InvoiceFields.Files.Host
import InvoiceFields.Files.Path
import InvoiceFields.Files.Store
import InvoiceFields.Heuristics
import InvoiceFields.Json.Basic
import InvoiceFields.Json.Decode
import InvoiceFields.Json.Fault
import InvoiceFields.Json.KeyPath
import InvoiceFields.Json.NumberLiteral
import InvoiceFields.Json.Printer
import InvoiceFields.Json.StringLiteral
import InvoiceFields.Json.Token
import InvoiceFields.Json.Tree
import InvoiceFields.Main
import InvoiceFields.Mapping
import InvoiceFields.Override
import InvoiceFields.Party
import InvoiceFields.Pattern.Basic
import InvoiceFields.Pattern.Build
import InvoiceFields.Pattern.Catalogue
import InvoiceFields.Pipeline
import InvoiceFields.Plate
import InvoiceFields.Powers
import InvoiceFields.Profile
import InvoiceFields.Proofs.Amount.Acceptance
import InvoiceFields.Proofs.Amount.Currency
import InvoiceFields.Proofs.Amount.Grouping
import InvoiceFields.Proofs.Amount.Located
import InvoiceFields.Proofs.Amount.Match
import InvoiceFields.Proofs.Amount.Numeral
import InvoiceFields.Proofs.Amount.Reading
import InvoiceFields.Proofs.Amount.Rereading
import InvoiceFields.Proofs.Amount.Spelling
import InvoiceFields.Proofs.Amount.Writing
import InvoiceFields.Proofs.Answer
import InvoiceFields.Proofs.Command.Action
import InvoiceFields.Proofs.Command.Batch
import InvoiceFields.Proofs.Command.BatchTables
import InvoiceFields.Proofs.Command.Configuration
import InvoiceFields.Proofs.Command.ConfigurationRuns
import InvoiceFields.Proofs.Command.DottedKeys
import InvoiceFields.Proofs.Command.OneDocument
import InvoiceFields.Proofs.Command.Process
import InvoiceFields.Proofs.Command.Setup
import InvoiceFields.Proofs.Date.Located
import InvoiceFields.Proofs.Date.Reading
import InvoiceFields.Proofs.Date.Rereading
import InvoiceFields.Proofs.Date.Spelling
import InvoiceFields.Proofs.Date.Writing
import InvoiceFields.Proofs.Decimal.Cents
import InvoiceFields.Proofs.Decimal.Hundredths
import InvoiceFields.Proofs.Decimal.Numerals
import InvoiceFields.Proofs.Decimal.Part
import InvoiceFields.Proofs.Decimal.Pointed
import InvoiceFields.Proofs.Decimal.Quotient
import InvoiceFields.Proofs.Decimal.Range
import InvoiceFields.Proofs.Decimal.Rereading
import InvoiceFields.Proofs.Decimal.Truncation
import InvoiceFields.Proofs.Decimal.Value
import InvoiceFields.Proofs.Document.Anchor
import InvoiceFields.Proofs.Document.Lines
import InvoiceFields.Proofs.Document.LiteralText
import InvoiceFields.Proofs.Extraction.Additions
import InvoiceFields.Proofs.Extraction.Balance
import InvoiceFields.Proofs.Extraction.Completion
import InvoiceFields.Proofs.Extraction.Conservation
import InvoiceFields.Proofs.Extraction.Derived
import InvoiceFields.Proofs.Extraction.Due
import InvoiceFields.Proofs.Extraction.Lookup
import InvoiceFields.Proofs.Extraction.RoundTrip
import InvoiceFields.Proofs.Extraction.Totality
import InvoiceFields.Proofs.Files.Path
import InvoiceFields.Proofs.Files.Store
import InvoiceFields.Proofs.Heuristics.Appended
import InvoiceFields.Proofs.Heuristics.Client
import InvoiceFields.Proofs.Heuristics.Scan
import InvoiceFields.Proofs.Json.Canonical
import InvoiceFields.Proofs.Json.Depth
import InvoiceFields.Proofs.Json.KeyPath
import InvoiceFields.Proofs.Json.Literals
import InvoiceFields.Proofs.Json.Numbers
import InvoiceFields.Proofs.Json.Places
import InvoiceFields.Proofs.Json.Reading
import InvoiceFields.Proofs.Json.Rereading
import InvoiceFields.Proofs.Json.Spelling
import InvoiceFields.Proofs.Json.TreeInduction
import InvoiceFields.Proofs.Mapping.Building
import InvoiceFields.Proofs.Mapping.Lenient
import InvoiceFields.Proofs.Mapping.Records
import InvoiceFields.Proofs.Mapping.Resolution
import InvoiceFields.Proofs.Pattern.Captures
import InvoiceFields.Proofs.Pattern.Characters
import InvoiceFields.Proofs.Pattern.Cutting
import InvoiceFields.Proofs.Pattern.Language
import InvoiceFields.Proofs.Pattern.Preference
import InvoiceFields.Proofs.Pattern.Run
import InvoiceFields.Proofs.Pattern.Spans
import InvoiceFields.Proofs.Pipeline.Breakdown
import InvoiceFields.Proofs.Pipeline.Provenance
import InvoiceFields.Proofs.Pipeline.ReceiverExclusion
import InvoiceFields.Proofs.Pipeline.ReceiverSpelling
import InvoiceFields.Proofs.Pipeline.Typing
import InvoiceFields.Proofs.Pipeline.UnrelatedProfile
import InvoiceFields.Proofs.Plate.Canonical
import InvoiceFields.Proofs.Profile.Building
import InvoiceFields.Proofs.Profile.Declarations
import InvoiceFields.Proofs.Profile.FieldByField
import InvoiceFields.Proofs.Profile.Reordering
import InvoiceFields.Proofs.Profile.Resolution
import InvoiceFields.Proofs.Record.Attempt
import InvoiceFields.Proofs.Record.Config
import InvoiceFields.Proofs.Record.Parts
import InvoiceFields.Proofs.Record.Segment
import InvoiceFields.Proofs.Registry.Acceptance
import InvoiceFields.Proofs.Registry.Loading
import InvoiceFields.Proofs.Registry.Selectable
import InvoiceFields.Proofs.Registry.Selection
import InvoiceFields.Proofs.Registry.SharedKeywords
import InvoiceFields.Proofs.Report.Csv
import InvoiceFields.Proofs.Report.Summary
import InvoiceFields.Proofs.Report.Table
import InvoiceFields.Proofs.Rule.Evaluation
import InvoiceFields.Proofs.TaxId.Bare
import InvoiceFields.Proofs.TaxId.CanonicalForm
import InvoiceFields.Proofs.TaxId.Checksum
import InvoiceFields.Proofs.TaxId.Control
import InvoiceFields.Proofs.TaxId.Detection
import InvoiceFields.Proofs.TaxId.FirstOccurrence
import InvoiceFields.Proofs.TaxId.Recognition
import InvoiceFields.Proofs.TaxId.Reportable
import InvoiceFields.Proofs.TaxId.SameParty
import InvoiceFields.Proofs.TaxId.Search
import InvoiceFields.Proofs.TaxId.Shape
import InvoiceFields.Proofs.TaxId.Soundness
import InvoiceFields.Proofs.TaxId.Token
import InvoiceFields.Proofs.Text.Blanks
import InvoiceFields.Proofs.Text.Bytes
import InvoiceFields.Proofs.Text.CapitalLetters
import InvoiceFields.Proofs.Text.Capitals
import InvoiceFields.Proofs.Text.Lowering
import InvoiceFields.Proofs.Text.Trimming
import InvoiceFields.Proofs.Text.WordCharacters
import InvoiceFields.Proofs.Text.Words
import InvoiceFields.Proofs.VatRate.Reading
import InvoiceFields.Proofs.VatRate.Usable
import InvoiceFields.Record.Config
import InvoiceFields.Record.Extraction
import InvoiceFields.Record.Mapping
import InvoiceFields.Record.Registry
import InvoiceFields.Record.Rule
import InvoiceFields.Record.VatRate
import InvoiceFields.Registry
import InvoiceFields.Report.Csv
import InvoiceFields.Report.Document
import InvoiceFields.Report.Duration
import InvoiceFields.Rule
import InvoiceFields.RuleFault
import InvoiceFields.Segment
import InvoiceFields.Settings
import InvoiceFields.TaxId
import InvoiceFields.Text.Blank
import InvoiceFields.Text.Case
import InvoiceFields.Text.Digit
import InvoiceFields.Text.Letter
import InvoiceFields.Text.Quoted
import InvoiceFields.Text.Ranges
import InvoiceFields.Text.Utf8
import InvoiceFields.Text.Word
import InvoiceFields.VatRate
