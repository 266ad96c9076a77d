import InvoiceFields.Command.Setup
import InvoiceFields.Files.Glob
import InvoiceFields.Files.Path
import InvoiceFields.Report.Duration

/-!
# Extracting many documents

The command extracts the documents in a directory, or those that a glob matches, in the order of
their paths. Every document is a row of one table; those that fail can be listed in another. The
work on the documents is left to a `WorkerPool`.
-/

namespace InvoiceFields

/-! ### Workers -/

/-- How tasks are worked on. -/
structure WorkerPool (m : Type → Type) where
  /-- Works on tasks, on so many of them at a time, and collects their results. -/
  buffered {α : Type} (jobs : Nat) (tasks : List (m α)) : m (List α)
  /-- What is told of a worker that a document has broken down. -/
  breakdownText (path : String) (cause : Breakdown) : String

/-- The workers do one task after the other. If they may work on none at a time, they do none. -/
def WorkerPool.sequential {m : Type → Type} [Monad m] : WorkerPool m where
  buffered jobs tasks := if jobs = 0 then return [] else tasks.mapM id
  breakdownText _ _ := "task panicked"

/-! ### Rows -/

/-- What became of one document of a batch. -/
structure BatchRow where
  path : String
  /-- What was extracted, if anything. -/
  fields : Option Extraction
  /-- The message of the failure, if it failed. -/
  error : Option String
  /-- How long it took. -/
  nanoseconds : Nat

namespace BatchRow

/-- The name of the file. -/
def name (r : BatchRow) : String := Path.fileName r.path

/-- The cells of a row: the name of the file and the values of all fields. -/
def cells (r : BatchRow) : List String := r.name :: (r.fields.getD .empty).row

/-- The row of a document that has been extracted. A worker that broke down is told of. -/
def ofRun (path : String) (nanoseconds : Nat) (told : Breakdown → String) :
    Except Breakdown (Except Failure Outcome) → BatchRow
  | .ok (.ok outcome) => ⟨path, some outcome.fields, none, nanoseconds⟩
  | .ok (.error (.noTotals found)) =>
    ⟨path, some found, some (Failure.noTotals found).message, nanoseconds⟩
  | .ok (.error failure) => ⟨path, none, some failure.message, nanoseconds⟩
  | .error cause => ⟨path, none, some (told cause), 0⟩

/-- The table of all rows. -/
def table (rows : List BatchRow) : String := Csv.table (Report.header :: rows.map cells)

/-- The message of a row that failed. -/
def failure (r : BatchRow) : String := r.error.getD ""

/-- The table of the rows that failed. -/
def failureTable (failed : List BatchRow) : String :=
  Csv.table (["filename", "error", "processing_time_ms"] ::
    failed.map fun r =>
      [r.name, r.failure,
        Decimal.countText (Duration.milliseconds r.nanoseconds)])

end BatchRow

/-! ### The command -/

namespace Command

variable {m : Type → Type} [Monad m] [Host m]

/-- Whether a path leads to a file with one of some extensions, whatever their case. -/
def isDocument (extensions : List String) (path : String) : m Bool := do
  if ← Host.isFile path then
    return extensions.any (Text.equalIgnoringAsciiCase · (Path.extension path))
  else return false

/-- The paths in a directory, or those that a glob matches. -/
def candidates (input : String) : Action m (List String) := do
  if ← Host.isDirectory (m := m) input then
    let names ← Action.expect FileFault.message (← Host.list (m := m) input)
    return names.map (Path.join input)
  else
    match ← Glob.files? (m := m) input with
    | some paths => return paths
    | none => Action.fail "Pattern syntax error"

/-- The documents of a batch in order. -/
def documents (input : String) (extensions : List String) : Action m (List String) := do
  let found ← (← candidates input).filterM fun path => isDocument (m := m) extensions path
  return Path.sort found

/-- Extracts one document of a batch. `told` is what is told of a worker that breaks down. -/
def extractRow (pipeline : Pipeline) (level : LogLevel) (told : String → Breakdown → String)
    (path : String) : m BatchRow := do
  let start ← Host.clock
  match ← (Setup.readDocument (m := m) path).run with
  | .error (.failed message) => return ⟨path, none, some message, 0⟩
  | .error (.brokeDown cause) => return .ofRun path 0 (told path) (.error cause)
  | .ok doc =>
    let result := pipeline.run doc (some (Path.fileName path)) level
    return .ofRun path ((← Host.clock) - start) (told path) result

/-- Tells how a batch went. -/
def summarise (rows failed : List BatchRow) (nanoseconds : Nat) : Action m Unit := do
  Action.noteLine ""
  Action.noteLine ("✓ Processed " ++ Decimal.countText rows.length ++ " files in " ++
    Duration.text nanoseconds)
  Action.noteLine ("   " ++ Decimal.countText (rows.length - failed.length) ++ " successful, " ++
    Decimal.countText failed.length ++ " failed")
  if !failed.isEmpty then
    Action.noteLine ""
    Action.noteLine "Failed files:"
    failed.forM fun r => Action.noteLine ("  - " ++ r.path ++ ": " ++ r.failure)

/-- Writes the tables of a batch and tells how it went. -/
def conclude (rows : List BatchRow) (output failures : Option String) (start : Nat) :
    Action m Unit := do
  match output with
  | none => Host.say (m := m) (BatchRow.table rows)
  | some path =>
    Action.writeFile path (BatchRow.table rows)
    Action.noteLine ("✓ Table written to " ++ path)
  let failed := rows.filter (·.error.isSome)
  match failures with
  | none => pure ()
  | some path =>
    Action.writeFile path (BatchRow.failureTable failed)
    Action.noteLine ("✓ Failures written to " ++ path)
  summarise rows failed ((← Host.clock (m := m)) - start)

/-- Extracts many documents and writes the tables. At least one document is worked on at a time. -/
def batch (config : Config) (input : String) (output failures : Option String)
    (jobs : Option Nat) (start : Nat) (level : LogLevel) (pool : WorkerPool m) :
    Action m Unit := do
  let paths ← documents input config.batch.extensions
  if paths.isEmpty then
    Action.fail ("No matching files found for: " ++ input)
  Action.noteLine ("ℹ Found " ++ Decimal.countText paths.length ++ " files to process")
  let pipeline ← Setup.pipeline config.extraction
  let rows ← pool.buffered (max (jobs.getD config.batch.jobs) 1)
    (paths.map (extractRow pipeline level pool.breakdownText))
  conclude rows output failures start

end Command

end InvoiceFields
