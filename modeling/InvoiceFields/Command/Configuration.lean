import InvoiceFields.Command.Setup
import InvoiceFields.Json.KeyPath
import InvoiceFields.Json.Printer

/-!
# Looking at and changing the configuration

The configuration is shown and changed as a JSON value whose parts are reached by dotted keys. A
change is written only if the result is a configuration.
-/

namespace InvoiceFields.Command

variable {m : Type → Type} [Monad m] [Host m]

/-- The message for a key that leads nowhere. -/
def noSuchKey (key : String) : String := "Configuration key not found: " ++ key

/-- The part of a value that a dotted key leads to. -/
def lookup (j : Json) (key : String) : Except String Json :=
  match j.atPointer? (Json.keyPointer key) with
  | some part => .ok part
  | none => .error (noSuchKey key)

/-- Changes the part of a value that a dotted key leads to. The value that is there afterwards is
given in any case. -/
def assign (j : Json) (key : String) (value : Json) : Except String Unit × Json :=
  match j.putAtPointer? value (Json.keyPointer key) with
  | some changed => (.ok (), changed)
  | none => (.error (noSuchKey key), j)

/-- Writes a configuration to a file, whose directory is made if necessary. -/
def writeConfig (path : String) (config : Config) : Action m Unit := do
  match Path.parent? path with
  | none => pure ()
  | some dir => Action.expect FileFault.message (← Host.makeDirectory (m := m) dir)
  Action.writeFile path config.toJson.pretty

/-- Shows the configuration. -/
def showConfig (path : String) : Action m Unit := do
  let config ← Setup.storedConfig path
  Action.sayLine config.toJson.canonical.pretty

/-- Shows a part of the configuration. -/
def getConfig (path key : String) : Action m Unit := do
  let config ← Setup.storedConfig path
  let part ← Action.expect id (lookup config.toJson.canonical key)
  Action.sayLine part.pretty

/-- Writes the default configuration. -/
def initConfig (path : String) (force : Bool) : Action m Unit := do
  if (← Host.exists? (m := m) path) && !force then
    Action.fail ("Config file already exists at " ++ path ++ ". Use --force to overwrite.")
  writeConfig path .standard
  Action.sayLine ("✓ Created configuration file at " ++ path)

/-- The value that a word stands for: what it is as JSON, or else the word itself. -/
def valueOf (word : String) : Json :=
  match Json.ofText word with
  | .ok value => value.canonical
  | .error _ => .string word

/-- Changes a part of the configuration. -/
def setConfig (path key word : String) : Action m Unit := do
  let value := valueOf word
  let config ← Setup.storedConfig path
  let (answer, changed) := assign config.toJson.canonical key value
  Action.expect id answer
  let config ← Action.expect
    (fun fault => "Invalid value for " ++ key ++ ": " ++ Json.Fault.valueMessage fault)
    (Config.ofTree (Json.Tree.ofJson changed))
  writeConfig path config
  Action.sayLine ("✓ Set " ++ key ++ " = " ++ value.compact)

/-- Tells which file holds the configuration. -/
def configPath (path : String) : Action m Unit := do
  let status := if ← Host.exists? (m := m) path then "exists"
    else "not created (run 'facta config init')"
  Action.sayLine (path ++ " [" ++ status ++ "]")

end InvoiceFields.Command
