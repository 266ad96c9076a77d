import InvoiceFields.Report.Document
import InvoiceFields.VatRate

/-!
# Words of a command line

What a word of a command line can mean, and what can be wrong with a command line. A `WordKind`
says which words an option or an argument takes and reads them as a `WordValue`.
-/

namespace InvoiceFields

/-- Why a command line is refused. `name` is the option or argument that is concerned. -/
inductive UsageError where
  /-- No option has this name, or there is a word too many. -/
  | unknownArgument (word : String)
  /-- An argument is left out. -/
  | missingArgument (name : String)
  /-- A value is left out, empty, or none of those allowed. -/
  | invalidValue (name : String)
  /-- A value cannot be read. -/
  | unreadableValue (name : String)
  /-- An option is given twice. -/
  | repeatedOption (name : String)
  /-- A switch is given a value. -/
  | surplusValue (name : String)
  /-- A word that should be a command is none. -/
  | unknownCommand (word : String)
  /-- There are options but no command. -/
  | missingCommand
  /-- Nothing at all is given where a command is needed. -/
  | nothingGiven
  /-- Help is asked for. -/
  | help
  /-- The version is asked for. -/
  | version
deriving Repr, DecidableEq

/-- The wording of a refusal. -/
def UsageError.message : UsageError → String
  | unknownArgument word => "unexpected argument " ++ Text.quoted word
  | missingArgument name => "missing argument: " ++ name
  | invalidValue name => "invalid value for " ++ name
  | unreadableValue name => "unreadable value for " ++ name
  | repeatedOption name => "given more than once: " ++ name
  | surplusValue name => "no value is allowed for " ++ name
  | unknownCommand word => "unknown command " ++ Text.quoted word
  | missingCommand | nothingGiven | help => "usage: facta process|batch|rules|config ..."
  | version => "facta"

/-- What a word is read as. -/
inductive WordValue where
  /-- The bare fact that a switch is given. -/
  | given
  | text (s : String)
  | format (f : ReportFormat)
  | rate (r : VatRate)
  | count (n : Nat)

/-- The words that an option or an argument takes. -/
inductive WordKind where
  /-- Any word. -/
  | text
  /-- A path, which is not empty. -/
  | path
  /-- The name of a format. -/
  | format
  | rate
  /-- A number below `2 ^ 64`, with a plus sign or without. -/
  | count
deriving Repr, DecidableEq

namespace WordKind

/-- The number of a word. -/
def count? (word : String) : Option Nat :=
  let cs := word.toList
  (Text.readNat? (if cs.head? = some '+' then cs.drop 1 else cs)).filter (· < twoTo 64)

/-- Reads a word for the option or argument `name`. -/
def read (name word : String) : WordKind → Except UsageError WordValue
  | text => .ok (.text word)
  | path => if word = "" then .error (.invalidValue name) else .ok (.text word)
  | format =>
    match ReportFormat.ofName? word with
    | some f => .ok (.format f)
    | none => .error (.invalidValue name)
  | rate =>
    match VatRate.read word with
    | .ok r => .ok (.rate r)
    | .error _ => .error (.unreadableValue name)
  | count =>
    match count? word with
    | some n => .ok (.count n)
    | none => .error (.unreadableValue name)

end WordKind

end InvoiceFields
