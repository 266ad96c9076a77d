import InvoiceFields.Text.Blank
import InvoiceFields.Text.Case

/-!
# Documents

A `Document` is the list of its lines. `Document.ofText` cuts a text into lines;
`Document.findAnchor?` looks for the first line that holds one of several markers.
-/

namespace InvoiceFields

/-- The lines of a document, counted from zero. -/
structure Document where
  lines : List String
deriving Repr, DecidableEq

namespace Document

/-- The document of a text. -/
def ofText (text : String) : Document := ⟨Text.lines text⟩

/-- The number of lines. -/
def length (doc : Document) : Nat := doc.lines.length

/-- Whether every line is blank. -/
def isBlank (doc : Document) : Bool := doc.lines.all Text.blankOnly

/-- The line at an index of any sign. -/
def lineAt? (doc : Document) (index : Int) : Option String :=
  if index < 0 then none else doc.lines[index.toNat]?

/-- The lines, each with the one that follows it. -/
def withNext (doc : Document) : List (String × Option String) :=
  doc.lines.zip (doc.lines.tail.map some ++ [none])

/-- The first line from `start` on, in a list of lower-cased lines, that holds the marker. -/
def findMarker? (lowered : List (List Char)) (marker : String) : Option Nat :=
  let needle := Text.lowerChars (Text.trimChars marker.toList)
  if needle.isEmpty then none else lowered.findIdx? (Text.occursIn needle)

/-- The index of the first line at `start` or later that holds the first marker to be found at
all. Case and blanks around a marker do not matter, and a blank marker is never found. -/
def findAnchorFrom? (doc : Document) (markers : List String) (start : Nat) : Option Nat :=
  let lowered := (doc.lines.drop start).map fun line => Text.lowerChars line.toList
  (markers.findSome? (findMarker? lowered)).map (start + ·)

/-- The index of the first line that holds the first marker to be found at all. -/
def findAnchor? (doc : Document) (markers : List String) : Option Nat :=
  doc.findAnchorFrom? markers 0

end Document

end InvoiceFields
