import InvoiceFields.Command.Action
import InvoiceFields.Command.Invocation
import InvoiceFields.Files.Path
import InvoiceFields.Record.Config
import InvoiceFields.Text.Utf8

/-!
# What commands read

The configuration of a run, its rules, and its documents, each from a file. A command line may
name the configuration file and takes precedence over its content.
-/

namespace InvoiceFields

namespace Setup

variable {m : Type → Type} [Monad m] [Host m]

/-! ### Rules -/

/-- The registry in a file. -/
def readRules (path : String) : Action m Registry := do
  let text ← Action.expect (fun e => "failed to read rule configuration: " ++ e.message)
    (← Host.readText (m := m) path)
  Action.expect RulesFault.message (Registry.ofText text)

/-! ### Configurations -/

/-- The configuration in a file. -/
def readConfig (path : String) : Action m Config := do
  let text ← Action.expect FileFault.message (← Host.readText (m := m) path)
  Action.expect Json.Fault.message (Config.ofText text)

/-- The configuration in a file, the default if there is no such file. -/
def storedConfig (path : String) : Action m Config := do
  if ← Host.exists? (m := m) path then readConfig path else return .standard

/-- The configuration of a command that extracts. A file that is named must be there; `usual` is
the file to look for otherwise. -/
def loadConfig (usual : String) : Option String → Action m Config
  | some path =>
    (readConfig path).reword fun message => "Failed to load config " ++ path ++ ": " ++ message
  | none => storedConfig usual

/-- The configuration of the extraction with what is given in its place. -/
def override (c : ExtractionConfig) (options : ExtractionOptions) : ExtractionConfig :=
  { c with
    rulesPath := options.rules <|> c.rulesPath
    rate := options.rate.getD c.rate
    receiver := options.receiver <|> c.receiver }

/-- The pipeline of a configuration, with the rules of its file if it names one. -/
def pipeline (c : ExtractionConfig) : Action m Pipeline := do
  match c.rulesPath with
  | none => return c.pipeline .empty
  | some path =>
    return c.pipeline (← (readRules path).reword fun message => "configuration error: " ++ message)

/-! ### Documents -/

/-- The document in a file, whose name it is known by. Bytes that are no text are replaced. -/
def readDocument (path : String) : Action m Document := do
  let bytes ← Action.expect FileFault.message (← Host.read (m := m) path)
  return .ofText (Text.Utf8.ofBytes bytes)

end Setup

end InvoiceFields
