import InvoiceFields.Document
import InvoiceFields.Pattern.Catalogue

/-!
# Vehicle plates

A plate is four digits and three consonants. `Plate.normalize` drops everything else that stands
between them; `Plate.find?` reads the first plate of a line.
-/

namespace InvoiceFields.Plate

/-- Whether a character is an ASCII letter or digit. -/
def isPlateChar (c : Char) : Bool :=
  Text.isAsciiDigit c || Text.isAsciiUpper c || Text.isAsciiLower c

/-- The ASCII letters and digits of a text, in capitals. -/
def normalize (raw : String) : String :=
  String.ofList (Text.upperChars (raw.toList.filter isPlateChar))

/-- Whether a text is one plate, whatever stands between its characters. -/
def isPlate (raw : String) : Bool := Pattern.plateCanonical.occursIn (normalize raw).toList

/-- The first plate of a line: its digits, and its letters in capitals. -/
def find? (line : String) : Option String :=
  (Pattern.plateToken.find? line.toList).map fun m =>
    m.groupText 1 ++ Text.upper (m.groupText 2)

/-- The first plate of a document. -/
def findIn? (doc : Document) : Option String := doc.lines.findSome? find?

end InvoiceFields.Plate
