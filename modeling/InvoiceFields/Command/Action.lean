import InvoiceFields.Breakdown
import InvoiceFields.Files.Host

/-!
# Actions

An `Action` is a computation with files and outputs that can stop: with a failure, which is told
to the user, or because something breaks down.
-/

namespace InvoiceFields

/-- Why an action stops. -/
inductive Stop where
  /-- The user is told a message. -/
  | failed (message : String)
  | brokeDown (cause : Breakdown)
deriving Repr, DecidableEq

/-- A computation that can stop. -/
abbrev Action (m : Type → Type) (α : Type) : Type := ExceptT Stop m α

namespace Action

variable {m : Type → Type} [Monad m]

/-- Stops with a message. -/
def fail {α : Type} (message : String) : Action m α := throw (.failed message)

/-- Goes on with a result, or stops with the message of a fault. -/
def expect {ε α : Type} (message : ε → String) : Except ε α → Action m α
  | .ok a => pure a
  | .error e => fail (message e)

/-- The action with its message changed, should it fail. -/
def reword {α : Type} (a : Action m α) (wording : String → String) : Action m α :=
  a.adapt fun stop => match stop with
    | .failed message => .failed (wording message)
    | .brokeDown cause => .brokeDown cause

/-- Goes on with a result, unless its computation broke down. -/
def sound {α : Type} : Except Breakdown α → Action m α
  | .ok a => pure a
  | .error b => throw (.brokeDown b)

variable [Host m]

/-- Writes a line to the standard output. -/
def sayLine (line : String) : Action m Unit := Host.sayLine (m := m) line

/-- Writes a line to the error output. -/
def noteLine (line : String) : Action m Unit := Host.noteLine (m := m) line

/-- Gives a file a text as its content. -/
def writeFile (path content : String) : Action m Unit := do
  expect FileFault.message (← Host.write (m := m) path content)

end Action

end InvoiceFields
