import InvoiceFields.Command.Words
import InvoiceFields.Pipeline

/-!
# Command lines

A `CommandLine` is what a user asks for: one `Invocation`, and perhaps a configuration file.
`CommandLine.ofWords` reads it from the words of a command line, which also say how much is logged
(`CommandLine.readWords`).
-/

namespace InvoiceFields

/-- What takes the place of the configuration of the extraction. -/
structure ExtractionOptions where
  /-- The file that holds the rules. -/
  rules : Option String
  rate : Option VatRate
  /-- The tax identifier of the receiver. -/
  receiver : Option String

/-- What a user asks for. -/
inductive Invocation where
  /-- Extract one document and write a report, to a file or to the standard output. -/
  | process (input : String) (output : Option String) (format : ReportFormat)
      (source : Option String) (options : ExtractionOptions)
  /-- Extract many documents, those in a directory or those that a glob matches, into a table. The
  failures make up a table of their own. -/
  | batch (input : String) (output failures : Option String) (jobs : Option Nat)
      (options : ExtractionOptions)
  /-- Read a file of rules and list its profiles. -/
  | checkRules (file : String)
  /-- List the overrides. -/
  | listOverrides
  /-- Tell which profile is selected for a document. -/
  | identify (input : String) (source : Option String) (options : ExtractionOptions)
  /-- Show the configuration. -/
  | showConfig
  /-- Write the default configuration to a file, which must not be there unless `force` is set. -/
  | initConfig (output : Option String) (force : Bool)
  /-- Show a part of the configuration. -/
  | getConfig (key : String)
  /-- Change a part of the configuration. -/
  | setConfig (key value : String)
  /-- Tell which file holds the configuration. -/
  | configPath

/-- An invocation with the configuration file that is named, if one is. -/
structure CommandLine where
  config : Option String
  invocation : Invocation

/-! ### The commands -/

namespace CommandLine

/-- The options of every command. -/
def commonOptions : List OptionShape := [
  ⟨"verbose", some 'v', .counter⟩,
  ⟨"config", some 'c', .value .text⟩,
  ⟨"help", some 'h', .stop .help⟩]

/-- The options of commands that extract. -/
def extractionOptions : List OptionShape := [
  ⟨"rules", some 'r', .value .path⟩,
  ⟨"vat-rate", none, .value .rate⟩,
  ⟨"receiver", none, .value .text⟩]

/-- A command without commands of its own. -/
def command (name : String) (options : List OptionShape) (arguments : List (String × WordKind)) :
    CommandShape :=
  ⟨name, commonOptions ++ options, arguments, []⟩

/-- A command that is followed by one of its own commands, or by `help`. -/
def group (name : String) (options : List OptionShape) (commands : List CommandShape) :
    CommandShape :=
  ⟨name, commonOptions ++ options, [], commands ++ [⟨"help", [], [], []⟩]⟩

/-- The shape of all command lines. -/
def shape : CommandShape :=
  group "facta" [⟨"version", some 'V', .stop .version⟩] [
    command "process" ([
      ⟨"output", some 'o', .value .path⟩,
      ⟨"format", some 'f', .value .format⟩,
      ⟨"source", none, .value .text⟩] ++ extractionOptions) [("input", .path)],
    command "batch" ([
      ⟨"output", some 'o', .value .path⟩,
      ⟨"failures", none, .value .path⟩,
      ⟨"jobs", some 'j', .value .count⟩] ++ extractionOptions) [("input", .text)],
    group "rules" [] [
      command "check" [] [("file", .path)],
      command "overrides" [] [],
      command "identify" (⟨"source", none, .value .text⟩ :: extractionOptions)
        [("input", .path)]],
    group "config" [] [
      command "show" [] [],
      command "init" [⟨"output", some 'o', .value .path⟩, ⟨"force", none, .switch⟩] [],
      command "get" [] [("key", .text)],
      command "set" [] [("key", .text), ("value", .text)],
      command "path" [] []]]

end CommandLine

/-! ### Values by name -/

namespace CommandWords

/-- The text that is given for an option or argument. -/
def text? (w : CommandWords) (name : String) : Option String :=
  match w.given.lookup name with
  | some (.text s) => some s
  | _ => none

/-- The text that is given for an argument. -/
def argument (w : CommandWords) (name : String) : String := (w.text? name).getD ""

/-- Whether a switch is given. -/
def has (w : CommandWords) (name : String) : Bool := (w.given.lookup name).isSome

/-- The format that is given, JSON if there is none. -/
def format (w : CommandWords) : ReportFormat :=
  match w.given.lookup "format" with
  | some (.format f) => f
  | _ => .json

/-- The number that is given for an option. -/
def count? (w : CommandWords) (name : String) : Option Nat :=
  match w.given.lookup name with
  | some (.count n) => some n
  | _ => none

/-- The VAT rate that is given. -/
def rate? (w : CommandWords) : Option VatRate :=
  match w.given.lookup "vat-rate" with
  | some (.rate r) => some r
  | _ => none

/-- What is given in place of the configuration of the extraction. -/
def extraction (w : CommandWords) : ExtractionOptions :=
  ⟨w.text? "rules", w.rate?, w.text? "receiver"⟩

/-- The invocation that words stand for. -/
def invocation? (w : CommandWords) : Option Invocation :=
  match w.commands with
  | ["process"] =>
    some (.process (w.argument "input") (w.text? "output") w.format (w.text? "source")
      w.extraction)
  | ["batch"] =>
    some (.batch (w.argument "input") (w.text? "output") (w.text? "failures") (w.count? "jobs")
      w.extraction)
  | ["rules", "check"] => some (.checkRules (w.argument "file"))
  | ["rules", "overrides"] => some .listOverrides
  | ["rules", "identify"] =>
    some (.identify (w.argument "input") (w.text? "source") w.extraction)
  | ["config", "show"] => some .showConfig
  | ["config", "init"] => some (.initConfig (w.text? "output") (w.has "force"))
  | ["config", "get"] => some (.getConfig (w.argument "key"))
  | ["config", "set"] => some (.setConfig (w.argument "key") (w.argument "value"))
  | ["config", "path"] => some .configPath
  | _ => none

end CommandWords

/-- How much is logged: more for every time that it is asked for. -/
def CommandWords.level (w : CommandWords) : LogLevel := .ofCount ((w.count? "verbose").getD 0)

namespace CommandLine

/-- Reads the words of a command line behind the program's name, and how much is logged. -/
def readWords (words : List String) : Except UsageError (CommandLine × LogLevel) := do
  let w ← shape.read words
  match w.invocation? with
  | some invocation => return (⟨w.text? "config", invocation⟩, w.level)
  | none => .error .missingCommand

/-- Reads the words of a command line behind the program's name. -/
def ofWords (words : List String) : Except UsageError CommandLine := (readWords words).map (·.1)

end CommandLine

end InvoiceFields
