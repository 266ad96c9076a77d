import InvoiceFields.Amount
import InvoiceFields.Json.Printer
import InvoiceFields.Record.Extraction
import InvoiceFields.Report.Csv

/-!
# Reports on a document

A `Report` says what was extracted from one document and by what. It is written as JSON, as a
table, or as a summary for people.
-/

namespace InvoiceFields

/-- What was extracted from one document. -/
structure Report where
  source : String
  /-- The profile that was used, or `generic`. -/
  extractor : String
  /-- Whether a base or a total was found. -/
  complete : Bool
  fields : Extraction
  /-- The fields that the heuristics filled after the profile. -/
  fallback : List Field

/-- A way to write a report. -/
inductive ReportFormat where
  | json
  | csv
  | text
deriving Repr, DecidableEq

namespace ReportFormat

/-- The formats by name. -/
def all : List (String × ReportFormat) := [("json", json), ("csv", csv), ("text", text)]

/-- The format of a name. -/
def ofName? (name : String) : Option ReportFormat := all.lookup name

end ReportFormat

namespace Report

/-- The names of the columns of a table. -/
def header : List String := "filename" :: Field.all.map Field.key

/-- The report as JSON. -/
def toJson (r : Report) : Json := .object ([
  ("source", .string r.source),
  ("extractor", .string r.extractor),
  ("complete", .bool r.complete),
  ("fields", r.fields.toJson)] ++
  if r.fallback.isEmpty then []
  else [("fallback_fields", .array (r.fallback.map fun f => .string f.key))])

/-- The report as a table of one row. -/
def toTable (r : Report) : String :=
  let table := Csv.table [header, r.source :: r.fields.row]
  String.ofList (Text.dropEndWhile Text.isBlank table.toList)

/-- A key with blanks behind it, at least fifteen characters in all. -/
def padKey (key : String) : String :=
  key ++ String.ofList (List.replicate (15 - key.length) ' ')

/-- A value for people. -/
def shown : FieldValue → String
  | .amount d => Amount.format d
  | .text s => s

/-- The line of a field. A star marks what the heuristics found. -/
def fieldLine (r : Report) (f : Field) (v : FieldValue) : String :=
  "  " ++ padKey f.key ++ " " ++ shown v ++ (if r.fallback.contains f then " *" else "") ++ "\n"

/-- The report as a summary. -/
def toSummary (r : Report) : String :=
  let text := "Source:    " ++ r.source ++ "\n" ++
    "Extractor: " ++ r.extractor ++ "\n" ++
    (if r.complete then "" else "Status:    incomplete (no base or total)\n") ++ "\n" ++
    String.join (r.fields.entries.map fun (f, v) => r.fieldLine f v) ++
    (if r.fallback.isEmpty then "" else "\n  * from generic heuristics\n")
  String.ofList (Text.dropEndWhile Text.isBlank text.toList)

/-- The report in a format, without a line break at its end. -/
def write (r : Report) : ReportFormat → String
  | .json => r.toJson.compact
  | .csv => r.toTable
  | .text => r.toSummary

end Report

end InvoiceFields
