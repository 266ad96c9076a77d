import InvoiceFields.Command.Run

/-!
# The program

The command line on a real machine: files, outputs and clock are those of the operating system.
Nothing is decided here but the exit code: 2 for a command line that is refused, 1 for a failure,
101 for a breakdown.
-/

namespace InvoiceFields

/-- The fault that an error of the operating system is. -/
def FileFault.ofError : IO.Error → FileFault
  | .noFileOrDirectory .. => .notFound
  | .alreadyExists _ 17 _ => .alreadyExists
  | .inappropriateType _ 20 _ => .notDirectory
  | .inappropriateType _ 21 _ => .isDirectory
  | e => .other e.toString

/-- The result of an operation on files. -/
def tryFile {α : Type} (action : IO α) : IO (Except FileFault α) := do
  try return .ok (← action)
  catch e => return .error (.ofError e)

instance : Host IO where
  kind? path := do
    try
      let resolved ← IO.FS.realPath path
      match (← resolved.metadata).type with
      | .dir => return some .directory
      | .file => return some .file
      | _ => return some .other
    catch _ => return none
  read path := tryFile (IO.FS.readBinFile path)
  write path content := tryFile (IO.FS.writeFile path content)
  makeDirectory path := tryFile (if path = "" then pure () else IO.FS.createDirAll path)
  list path := tryFile do
    let resolved ← IO.FS.realPath path
    return (← resolved.readDir).toList.map (·.fileName)
  say text := do (← IO.getStdout).putStr text
  note text := do (← IO.getStderr).putStr text
  clock := IO.monoNanosNow

/-- The configuration file of the user: in the directory for configurations that the environment
names, or else in the one below the user's home. -/
def usualConfig (xdg home : Option String) : String :=
  let dir := match xdg.filter Path.isAbsolute, home with
    | some dir, _ => dir
    | none, some home => Path.join home ".config"
    | none, none => "."
  Path.join (Path.join dir "facta") "config.json"

/-- Runs a command line and returns the exit code. -/
def runProgram (words : List String) : IO UInt32 := do
  match CommandLine.readWords words with
  | .error e =>
    Host.noteLine (m := IO) e.message
    return if e = .help ∨ e = .version then 0 else 2
  | .ok (line, level) =>
    let usual := usualConfig (← IO.getEnv "XDG_CONFIG_HOME") (← IO.getEnv "HOME")
    match ← (line.run usual level : Action IO Unit).run with
    | .ok () => return 0
    | .error (.failed message) =>
      Host.noteLine (m := IO) ("Error: " ++ message)
      return 1
    | .error (.brokeDown _) => return 101

end InvoiceFields

/-- The program. -/
def main (args : List String) : IO UInt32 := InvoiceFields.runProgram args
