import InvoiceFields.Command.Setup
import InvoiceFields.Override

/-!
# Looking at rules

Three commands on rules: one lists the profiles of a file, one lists the overrides, and one tells
which profile is selected for a document.
-/

namespace InvoiceFields

namespace Profile

/-- A line of a listing, if there is anything to list. -/
def listLine (label : String) (items : List String) : List String :=
  if items.isEmpty then [] else [label ++ Text.join ", " items]

/-- The lines that describe a profile. -/
def listing (p : Profile) : Except Breakdown (List String) := do
  let rate ← match p.rate with
    | none => pure []
    | some r => pure ["  VAT rate:  " ++ (← r.shown)]
  return ["", p.name] ++ listLine "  keywords:  " p.keywords ++
    listLine "  tax ids:   " p.taxIds ++ rate ++
    listLine "  fields:    " (p.mapping.fields.map Field.key) ++
    p.overrides.map fun (f, o) => "  override:  " ++ f.key ++ " -> " ++ o.name

end Profile

namespace Command

variable {m : Type → Type} [Monad m] [Host m]

/-- Lists the profiles of a file. -/
def checkRules (file : String) : Action m Unit := do
  let registry ← (Setup.readRules file).reword fun message => file ++ ": " ++ message
  Action.sayLine ("✓ " ++ Decimal.countText registry.size ++
    " profiles loaded from " ++ file)
  registry.profiles.forM fun p => do
    (← Action.sound p.listing).forM fun line => Action.sayLine line
  let shared := registry.sharedKeywords
  if !shared.isEmpty then
    Action.sayLine ""
    Action.sayLine ("⚠ Keywords used by more than one profile (first registered wins): " ++
      Text.join ", " shared)

/-- Lists the overrides. -/
def listOverrides : Action m Unit :=
  Override.all.forM fun o => Action.sayLine o.name

/-- Tells which profile is selected for a document. -/
def identify (config : Config) (input : String) (source : Option String) : Action m Unit := do
  let pipeline ← Setup.pipeline config.extraction
  let source := source.getD (Path.fileName input)
  let doc ← Setup.readDocument input
  match pipeline.registry.bySource? source with
  | some p =>
    Action.sayLine (p.name ++ " (source keyword in " ++ Text.quoted source ++ ")")
  | none =>
    match ← Action.sound (pipeline.registry.byContent? doc pipeline.settings) with
    | some p => Action.sayLine (p.name ++ " (issuer tax id in content)")
    | none => Action.sayLine "generic (no profile matched)"

end Command

end InvoiceFields
