import InvoiceFields.Command.Batch
import InvoiceFields.Command.Document
import InvoiceFields.Command.RuleListing
import InvoiceFields.Command.Configuration

/-!
# Running commands

`CommandLine.run` does what a command line asks for.
-/

namespace InvoiceFields.CommandLine

variable {m : Type → Type} [Monad m] [Host m]

/-- The configuration of a command that extracts, with what the command line gives in its
place. -/
def setup (usual : String) (named : Option String) (options : ExtractionOptions) :
    Action m Config := do
  let config ← Setup.loadConfig usual named
  return { config with extraction := Setup.override config.extraction options }

/-- Does what a command line asks for. `usual` is the configuration file of the user, and `pool`
has the workers of a batch. -/
def run (usual : String) (line : CommandLine) (level : LogLevel := .warn)
    (pool : WorkerPool m := .sequential) : Action m Unit := do
  let start ← Host.clock (m := m)
  let path := line.config.getD usual
  match line.invocation with
  | .process input output format source options =>
    Command.process (← setup usual line.config options) input output format source level
  | .batch input output failures jobs options =>
    Command.batch (← setup usual line.config options) input output failures jobs start level pool
  | .checkRules file => Command.checkRules file
  | .listOverrides => Command.listOverrides
  | .identify input source options =>
    Command.identify (← setup usual line.config options) input source
  | .showConfig => Command.showConfig path
  | .initConfig output force => Command.initConfig (output.getD path) force
  | .getConfig key => Command.getConfig path key
  | .setConfig key value => Command.setConfig path key value
  | .configPath => Command.configPath path

end InvoiceFields.CommandLine
