import InvoiceFields.Document
import InvoiceFields.Segment

/-!
# Extraction rules

A `Rule` takes a text out of a document: a constant, or a segment of a line that is given by its
number or by its distance from a marker. `resolve` says why a rule does not match; `evaluate?`
only whether it does. Lines and distances are integers of 64 bits.
-/

namespace InvoiceFields

/-- A way to take a text out of a document. -/
inductive Rule where
  /-- A text that does not depend on the document. -/
  | constant (value : String)
  /-- A segment of the line of a number, counted from one. -/
  | line (number : Int) (segment : Segment)
  /-- A segment of the line at a distance from the first line that holds a marker. -/
  | anchored (markers : List String) (offset : Int) (segment : Segment)
  /-- A rule of an unknown kind, which matches no document. -/
  | unsupported
deriving Repr, DecidableEq

namespace Rule

/-- Whether an integer has at most 64 bits. -/
def inWord (i : Int) : Bool := decide (-(twoTo 63 : Int) ≤ i ∧ i < twoTo 63)

/-- A segment of the line at an index. -/
def selectAt (doc : Document) (index : Int) (segment : Segment) : Except RuleFault String :=
  match doc.lineAt? index with
  | some l => segment.select (Text.words l)
  | none => .error (.indexOutOfRange index doc.length)

/-- The text that a rule takes out of a document, or why there is none. -/
def resolve (doc : Document) : Rule → Except RuleFault String
  | constant value => .ok value
  | line number segment =>
    if inWord (number - 1) then selectAt doc (number - 1) segment
    else .error (.indexOutOfRange number doc.length)
  | anchored markers offset segment =>
    match doc.findAnchor? markers with
    | none => .error (.anchorNotFound markers)
    | some anchor =>
      if inWord (anchor + offset) then selectAt doc (anchor + offset) segment
      else .error (.indexOutOfRange offset doc.length)
  | unsupported => .error (.unsupported "unknown rule type")

/-- The text that a rule takes out of a document. -/
def evaluate? (doc : Document) (rule : Rule) : Option String := (rule.resolve doc).toOption

end Rule

end InvoiceFields
