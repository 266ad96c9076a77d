import InvoiceFields.Text.Blank

/-!
# Tables of comma-separated values

A record is a line of cells with commas between them. A cell that holds a comma, a quote or a line
break is put in quotes, its own quotes written twice; a record whose only cell is empty is written
as a pair of quotes, so that the line is not empty.
-/

namespace InvoiceFields.Csv

/-- Whether a character makes quotes necessary. -/
def isSpecial (c : Char) : Bool := c == ',' || c == '"' || c == '\n' || c == '\x0d'

/-- The characters of a quoted cell. -/
def doubleQuotes : List Char → List Char
  | [] => []
  | c :: cs => if c = '"' then '"' :: '"' :: doubleQuotes cs else c :: doubleQuotes cs

/-- A cell as it is written. -/
def cellChars (cs : List Char) : List Char :=
  if cs.any isSpecial then '"' :: doubleQuotes cs ++ ['"'] else cs

/-- Cells with commas between them. -/
def cellsChars : List String → List Char
  | [] => []
  | [a] => cellChars a.toList
  | a :: rest => cellChars a.toList ++ ',' :: cellsChars rest

/-- A record with its line break. -/
def recordChars : List String → List Char
  | [""] => ['"', '"', '\n']
  | cells => cellsChars cells ++ ['\n']

/-- A table with a line for each record. -/
def table (records : List (List String)) : String :=
  String.ofList (records.flatMap recordChars)

end InvoiceFields.Csv
