import InvoiceFields.Registry

/-!
# The extraction of a document

A `Pipeline` extracts the fields of a document: the profile selected for it fills what it can, the
heuristics fill the rest, and missing amounts are derived. A document without any base or total
is a failure, which keeps what was found.

What is done can be logged. The log itself is no part of an answer, but a line of it shows the VAT
rate, which takes a number that may be out of range.
-/

namespace InvoiceFields

/-- How much is logged. -/
inductive LogLevel where
  /-- Warnings only. -/
  | warn
  /-- Notices on what is done as well. -/
  | info
  | debug
  | trace
deriving Repr, DecidableEq

/-- The level for the number of times that more is asked for. -/
def LogLevel.ofCount : Nat → LogLevel
  | 0 => warn
  | 1 => info
  | 2 => debug
  | _ => trace

/-- A registry with the settings and the VAT rate of a run. -/
structure Pipeline where
  registry : Registry
  settings : Settings
  rate : VatRate
deriving Repr, DecidableEq

/-- What was extracted from a document. -/
structure Outcome where
  /-- The name of the profile that was selected. -/
  profile : Option String
  /-- The fields that the heuristics filled after the profile. -/
  fallback : List Field
  fields : Extraction

/-- Why a document yields no result. -/
inductive Failure where
  /-- Every line is blank. -/
  | emptyDocument
  /-- No field could be filled. -/
  | noData
  /-- Neither base nor total could be filled, only the fields in `found`. -/
  | noTotals (found : Extraction)

/-- The wording of a failure. -/
def Failure.message : Failure → String
  | emptyDocument => "document is empty"
  | noData => "no invoice data found"
  | noTotals _ => "no base or total amount could be resolved"

namespace Pipeline

/-- The heuristic values that may fill gaps. Amounts hang together: once the profile has a base or
a total, no base, tax or total of another origin is added. -/
def admissible (found : Extraction) (heuristic : Extraction) : Extraction :=
  if found.hasTotals then ((heuristic.remove .base).remove .tax).remove .total else heuristic

/-- The notice on the profile that is used, unless only warnings are logged. -/
def notice? (p : Pipeline) (profile : Profile) (source : Option String) (level : LogLevel) :
    Except Breakdown (Option String) := do
  if level = .warn then return none
  let rate ← (profile.rate.getD p.rate).shown
  return some (source.getD "<input>" ++ ": using profile " ++ profile.name ++ " (VAT " ++ rate ++
    ")")

/-- The fields of a document that a profile was selected for. -/
def extractWith (p : Pipeline) (profile : Profile) (doc : Document) (source : Option String)
    (level : LogLevel) : Except Breakdown Outcome := do
  let _ ← p.notice? profile source level
  let found ← profile.resolve doc p.settings
  let fill := admissible found (← Heuristics.scan doc p.settings)
  let (fields, _) ← (found.orElse fill).derive (profile.rate.getD p.rate)
  return ⟨some profile.name, found.missing fill, fields⟩

/-- The fields of a document. -/
def extract (p : Pipeline) (doc : Document) (source : Option String)
    (level : LogLevel := .warn) : Except Breakdown Outcome := do
  match ← p.registry.identify doc source p.settings with
  | some profile => p.extractWith profile doc source level
  | none => return ⟨none, [], ← Heuristics.extract doc p.settings p.rate⟩

/-- The outcome, or the failure that it is without a base or a total. -/
def check (outcome : Outcome) : Except Failure Outcome :=
  if outcome.fields.isEmpty then .error .noData
  else if outcome.fields.hasTotals then .ok outcome
  else .error (.noTotals outcome.fields)

/-- Extracts a document. `source` names where it comes from. -/
def run (p : Pipeline) (doc : Document) (source : Option String) (level : LogLevel := .warn) :
    Except Breakdown (Except Failure Outcome) :=
  if doc.isBlank then .ok (.error .emptyDocument)
  else (p.extract doc source level).map check

end Pipeline

end InvoiceFields
