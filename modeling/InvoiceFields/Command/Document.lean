import InvoiceFields.Command.Setup

/-!
# Extracting one document

The command reads a document, extracts it and writes a report to a file or to the standard output.
A document without base or total has a report too, which is marked as incomplete; the command
fails after writing it.
-/

namespace InvoiceFields

/-- The name of the extractor in a report when no profile is selected. -/
def Report.generic : String := "generic"

/-- The report on an outcome. -/
def Report.ofOutcome (source : String) (o : Outcome) : Report :=
  ⟨source, o.profile.getD generic, true, o.fields, o.fallback⟩

/-- The report on a document without base and total. -/
def Report.incomplete (source : String) (profile : Option Profile) (found : Extraction) : Report :=
  ⟨source, (profile.map (·.name)).getD generic, false, found, []⟩

namespace Pipeline

/-- The report on a document, and the failure that it is nevertheless; or only the failure. -/
def report (p : Pipeline) (doc : Document) (source : String) (level : LogLevel) :
    Except Breakdown (Except Failure (Report × Option Failure)) := do
  match ← p.run doc (some source) level with
  | .ok outcome => return .ok (.ofOutcome source outcome, none)
  | .error (.noTotals found) =>
    let profile ← p.registry.identify doc (some source) p.settings
    return .ok (.incomplete source profile found, some (.noTotals found))
  | .error failure => return .error failure

end Pipeline

namespace Command

variable {m : Type → Type} [Monad m] [Host m]

/-- Writes a text to a file and says so, or to the standard output with a line break. -/
def writeOutput (output : Option String) (text : String) : Action m Unit := do
  match output with
  | none => Action.sayLine text
  | some path =>
    Action.writeFile path text
    Action.noteLine ("✓ Output written to " ++ path)

/-- Extracts a document and writes a report. -/
def process (config : Config) (input : String) (output : Option String) (format : ReportFormat)
    (source : Option String) (level : LogLevel) : Action m Unit := do
  if !(← Host.exists? (m := m) input) then
    Action.fail ("Input file not found: " ++ input)
  let pipeline ← Setup.pipeline config.extraction
  let source := source.getD (Path.fileName input)
  let doc ← Setup.readDocument input
  match ← Action.sound (pipeline.report doc source level) with
  | .error failure => Action.fail (source ++ ": " ++ failure.message)
  | .ok (report, failure) =>
    writeOutput output (report.write format)
    match failure with
    | none => return
    | some failure =>
      Action.noteLine ("✗ " ++ source ++ ": " ++ failure.message)
      Action.fail failure.message

end Command

end InvoiceFields
