import InvoiceFields.Command.Usage

/-!
# Reading command lines

A `CommandShape` says which options, arguments and commands may follow a command's name.
`CommandShape.read` reads the words of a command line by it: from left to right, one
`CommandLevel` for each command. A value is read only when the next option or argument is reached,
or at the end of its level, so that an unknown option is reported before a value that stands in
front of it.
-/

namespace InvoiceFields

/-- What an option is for. -/
inductive OptionRole where
  /-- It takes a value, and is given at most once. -/
  | value (kind : WordKind)
  /-- It takes no value, and is given at most once. -/
  | switch
  /-- It takes no value, and is given any number of times. -/
  | counter
  /-- It ends the reading. -/
  | stop (e : UsageError)
deriving Repr, DecidableEq

/-- An option: `--long`, or `-s` if it has a short name. -/
structure OptionShape where
  long : String
  short : Option Char
  role : OptionRole
deriving Repr, DecidableEq

/-- A command: its options, the arguments that must follow it in order, and its commands. -/
structure CommandShape where
  name : String
  options : List OptionShape
  arguments : List (String × WordKind)
  commands : List CommandShape
deriving Repr

/-- What has been read of a command line: the commands from the outermost to the innermost, and
what is given for options and arguments, those of the innermost command first. -/
structure CommandWords where
  commands : List String
  given : List (String × WordValue)

/-- An option or argument whose value has not been read yet. -/
structure PendingValue where
  name : String
  kind : WordKind
  /-- The word, once it is there. -/
  word : Option String

/-- What has been read for one command. -/
structure CommandLevel where
  given : List (String × WordValue)
  pending : Option PendingValue
  /-- The number of arguments so far. -/
  arguments : Nat
  /-- Whether all words that follow are arguments. -/
  literal : Bool

namespace CommandLevel

/-- Nothing has been read. -/
def start : CommandLevel := ⟨[], none, 0, false⟩

/-- Whether an option still lacks its value. -/
def isAwaiting (l : CommandLevel) : Bool := l.pending.any (·.word.isNone)

/-- Whether an option or argument is given. -/
def has (l : CommandLevel) (name : String) : Bool := (l.given.lookup name).isSome

/-- How many times a counter is given. -/
def count (l : CommandLevel) (name : String) : Nat :=
  match l.given.lookup name with
  | some (.count n) => n
  | _ => 0

/-- Reads the value of an option or argument, which must be its only one. -/
def take (l : CommandLevel) (name word : String) (kind : WordKind) :
    Except UsageError CommandLevel :=
  if l.has name then .error (.repeatedOption name)
  else do
    let value ← kind.read name word
    return { l with given := (name, value) :: l.given, pending := none }

/-- Reads the pending value. -/
def settle (l : CommandLevel) : Except UsageError CommandLevel :=
  match l.pending with
  | none => .ok l
  | some p =>
    match p.word with
    | none => .error (.invalidValue p.name)
    | some word => l.take p.name word p.kind

/-- An option that takes no value. -/
def give (l : CommandLevel) (o : OptionShape) : Except UsageError CommandLevel := do
  let l ← l.settle
  match o.role with
  | .stop e => .error e
  | .switch =>
    if l.has o.long then .error (.repeatedOption o.long)
    else return { l with given := (o.long, .given) :: l.given }
  | _ => return { l with given := (o.long, .count (l.count o.long + 1)) :: l.given }

/-- An option that takes a value, which may be attached to it. -/
def await (l : CommandLevel) (o : OptionShape) (kind : WordKind) (attached : Option String) :
    Except UsageError CommandLevel := do
  let l ← l.settle
  match attached with
  | some word => l.take o.long word kind
  | none => return { l with pending := some ⟨o.long, kind, none⟩ }

/-- The name and the attached value of a long option. -/
def splitLong (cs : List Char) : String × Option String :=
  let name := cs.takeWhile (· != '=')
  let attached := if name.length < cs.length then some (cs.drop (name.length + 1)) else none
  (String.ofList name, attached.map String.ofList)

/-- A word of two dashes and the name of an option. -/
def long (l : CommandLevel) (shape : CommandShape) (word : String) (cs : List Char) :
    Except UsageError CommandLevel :=
  let (name, attached) := splitLong cs
  match shape.options.find? (·.long == name) with
  | none => .error (.unknownArgument word)
  | some o =>
    match o.role, attached with
    | .value kind, _ => l.await o kind attached
    | _, some _ => .error (.surplusValue o.long)
    | _, none => l.give o

/-- The value that is attached to a short option, behind an equals sign or without. -/
def attachedTo : List Char → Option String
  | [] => none
  | '=' :: cs => some (String.ofList cs)
  | cs => some (String.ofList cs)

/-- A word of a dash and short names of options, the last of which may take a value. -/
def shorts (l : CommandLevel) (shape : CommandShape) (word : String) :
    List Char → Except UsageError CommandLevel
  | [] => .ok l
  | c :: cs =>
    match shape.options.find? (·.short == some c) with
    | none => .error (.unknownArgument word)
    | some o =>
      match o.role with
      | .value kind => l.await o kind (attachedTo cs)
      | _ => do (← l.give o).shorts shape word cs

/-- The refusal of a word that is no argument. -/
def refused (l : CommandLevel) (shape : CommandShape) (word : String) : UsageError :=
  if shape.commands.isEmpty ∨ (l.literal ∧ shape.commands.any (·.name == word)) then
    .unknownArgument word
  else .unknownCommand word

/-- A word that is an argument. -/
def argument (l : CommandLevel) (shape : CommandShape) (word : String) :
    Except UsageError CommandLevel :=
  match shape.arguments[l.arguments]? with
  | none => .error (l.refused shape word)
  | some (name, kind) => do
    let l ← l.settle
    return { l with pending := some ⟨name, kind, some word⟩, arguments := l.arguments + 1 }

/-- The word as the value that an option waits for, or else as an argument. -/
def plain (l : CommandLevel) (shape : CommandShape) (word : String) :
    Except UsageError CommandLevel :=
  match l.pending, l.isAwaiting with
  | some p, true => .ok { l with pending := some { p with word := some word } }
  | _, _ => l.argument shape word

/-- A word that is no command's name. -/
def word (l : CommandLevel) (shape : CommandShape) (w : String) : Except UsageError CommandLevel :=
  if l.literal then l.argument shape w
  else match w.toList with
    | ['-', '-'] => .ok { l with literal := true }
    | '-' :: '-' :: cs => l.long shape w cs
    | '-' :: c :: cs => l.shorts shape w (c :: cs)
    | _ => l.plain shape w

/-- The end of the words: every argument must be there, and a command if there are any. -/
def finish (l : CommandLevel) (shape : CommandShape) : Except UsageError CommandWords := do
  let l ← l.settle
  if shape.commands.isEmpty then
    match shape.arguments[l.arguments]? with
    | some (name, _) => .error (.missingArgument name)
    | none => return ⟨[], l.given⟩
  else if l.given.isEmpty then .error .nothingGiven
  else .error .missingCommand

end CommandLevel

namespace CommandShape

/-- Whether words name commands, each one of the command before. -/
def hasCommands (shape : CommandShape) : List String → Bool
  | [] => true
  | w :: ws =>
    match shape.commands.find? (·.name == w) with
    | some inner => inner.hasCommands ws
    | none => false

/-- What the command `help` leads to: it may be followed by the names of commands. -/
def helpFor (shape : CommandShape) (words : List String) : UsageError :=
  if shape.hasCommands words then .help else .unknownCommand (Text.join " " words)

/-- Reads the words behind a command's name. A command's name is not looked for where an option
waits for its value. -/
def readLevel (shape : CommandShape) (l : CommandLevel) :
    List String → Except UsageError CommandWords
  | [] => l.finish shape
  | w :: ws =>
    let command :=
      if l.literal || l.isAwaiting then none else shape.commands.find? (·.name == w)
    match command with
    | some inner => do
      if inner.name = "help" then .error (shape.helpFor ws)
      else
        let read ← inner.readLevel .start ws
        let l ← l.settle
        return ⟨inner.name :: read.commands, read.given ++ l.given⟩
    | none => do
      let l ← l.word shape w
      shape.readLevel l ws

/-- Reads the words of a command line. -/
def read (shape : CommandShape) (words : List String) : Except UsageError CommandWords :=
  shape.readLevel .start words

end CommandShape

end InvoiceFields
