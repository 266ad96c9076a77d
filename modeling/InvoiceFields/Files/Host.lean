/-!
# Files and terminals

What a command needs from the machine it runs on: files, directories, two outputs and a clock.
`Host m` says that computations of the kind `m` have them.
-/

namespace InvoiceFields

/-- What a path leads to. -/
inductive FileKind where
  | file
  | directory
  /-- Anything else, such as a device. -/
  | other
deriving Repr, DecidableEq

/-- Why an operation on files fails. -/
inductive FileFault where
  | notFound
  | isDirectory
  | notDirectory
  | alreadyExists
  /-- The file is not a text. -/
  | notText
  /-- Any other reason, in the words of the machine. -/
  | other (message : String)
deriving Repr, DecidableEq

/-- The wording of a fault. -/
def FileFault.message : FileFault → String
  | notFound => "No such file or directory (os error 2)"
  | isDirectory => "Is a directory (os error 21)"
  | notDirectory => "Not a directory (os error 20)"
  | alreadyExists => "File exists (os error 17)"
  | notText => "stream did not contain valid UTF-8"
  | other message => message

/-- Computations with files, outputs and a clock. -/
class Host (m : Type → Type) where
  /-- What a path leads to, if it leads anywhere. -/
  kind? : String → m (Option FileKind)
  /-- The content of a file. -/
  read : String → m (Except FileFault ByteArray)
  /-- Gives a file a text as its content. -/
  write : String → String → m (Except FileFault Unit)
  /-- Makes a directory and those above it. -/
  makeDirectory : String → m (Except FileFault Unit)
  /-- The names of the entries of a directory. -/
  list : String → m (Except FileFault (List String))
  /-- Writes to the standard output. -/
  say : String → m Unit
  /-- Writes to the error output. -/
  note : String → m Unit
  /-- The time in nanoseconds. -/
  clock : m Nat

namespace Host

variable {m : Type → Type} [Monad m] [Host m]

/-- Whether a path leads to something. -/
def exists? (path : String) : m Bool := do return (← kind? path).isSome

/-- Whether a path leads to a directory. -/
def isDirectory (path : String) : m Bool := do return (← kind? path) == some .directory

/-- Whether a path leads to a file. -/
def isFile (path : String) : m Bool := do return (← kind? path) == some .file

/-- The content of a file that is a text. -/
def readText (path : String) : m (Except FileFault String) := do
  match ← read path with
  | .error e => return .error e
  | .ok bytes =>
    match String.fromUTF8? bytes with
    | some s => return .ok s
    | none => return .error .notText

/-- Writes a line to the standard output. -/
def sayLine (line : String) : m Unit := say (line ++ "\n")

/-- Writes a line to the error output. -/
def noteLine (line : String) : m Unit := note (line ++ "\n")

end Host

end InvoiceFields
