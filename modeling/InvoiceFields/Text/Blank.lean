import InvoiceFields.Text.Ranges

/-!
# Blanks, words and lines

`isBlank` is the Unicode property White_Space. A text is trimmed at both ends, cut into words at
blanks, and cut into lines at line feeds; a carriage return at the end of a line belongs to the
line break. Characters and pairs of neighbours are replaced by others.
-/

namespace InvoiceFields.Text

/-- The ranges of the property White_Space. -/
def blankRanges : List (Nat × Nat) := [
  (0x9, 0xd), (0x20, 0x20), (0x85, 0x85), (0xa0, 0xa0), (0x1680, 0x1680), (0x2000, 0x200a),
  (0x2028, 0x2029), (0x202f, 0x202f), (0x205f, 0x205f), (0x3000, 0x3000)]

/-- Whether a character is a blank. -/
def isBlank (c : Char) : Bool := inRanges blankRanges c.toNat

/-! ### Trimming -/

/-- Drops the longest end whose characters all satisfy `p`. -/
def dropEndWhile (p : Char → Bool) (cs : List Char) : List Char :=
  (cs.reverse.dropWhile p).reverse

/-- Drops the longest ends whose characters all satisfy `p`, on both sides. -/
def stripWhile (p : Char → Bool) (cs : List Char) : List Char :=
  dropEndWhile p (cs.dropWhile p)

/-- Drops the blanks at both ends. -/
def trimChars (cs : List Char) : List Char := stripWhile isBlank cs

/-- A text without the blanks at its ends. -/
def trim (s : String) : String := String.ofList (trimChars s.toList)

/-- Whether nothing is left of a text after trimming. -/
def blankOnly (s : String) : Bool := s.toList.all isBlank

/-! ### Cutting -/

/-- The pieces between the characters that satisfy `p`; there is one more piece than such
characters. -/
def splitWhere (p : Char → Bool) : List Char → List (List Char)
  | [] => [[]]
  | c :: cs =>
    if p c then [] :: splitWhere p cs
    else match splitWhere p cs with
      | [] => [[c]]
      | piece :: pieces => (c :: piece) :: pieces

/-- The non-empty pieces between the characters that satisfy `p`. -/
def piecesWhere (p : Char → Bool) (cs : List Char) : List (List Char) :=
  (splitWhere p cs).filter (!·.isEmpty)

/-- The words of a text: its longest pieces without blanks. -/
def words (s : String) : List String :=
  (piecesWhere isBlank s.toList).map String.ofList

/-- A line without the carriage return of its line break, if there is one. -/
def dropReturn (cs : List Char) : List Char :=
  if cs.getLast? = some '\r' then cs.dropLast else cs

/-- The lines that the pieces between line feeds make. What stands behind the last line feed is a
line unless it is empty, and has no line break. -/
def linesOfPieces : List (List Char) → List (List Char)
  | [] => []
  | [last] => if last.isEmpty then [] else [last]
  | piece :: pieces => dropReturn piece :: linesOfPieces pieces

/-- The lines of a text, without the carriage returns at their ends. A final line break opens no
further line. -/
def lines (s : String) : List String :=
  (linesOfPieces (splitWhere (· == '\n') s.toList)).map fun line =>
    String.ofList (dropEndWhile (· == '\r') line)

/-- The parts before and after the first character that satisfies `p`, if there is one. -/
def splitOnce? (p : Char → Bool) (cs : List Char) : Option (List Char × List Char) :=
  match cs.dropWhile (!p ·) with
  | [] => none
  | _ :: rest => some (cs.takeWhile (!p ·), rest)

/-! ### Replacing -/

/-- Replaces a character by others wherever it stands. -/
def replaceChar (old : Char) (new : List Char) (cs : List Char) : List Char :=
  cs.flatMap fun c => if c = old then new else [c]

/-- Replaces two neighbours by one character wherever they stand, from left to right. -/
def replacePair (a b new : Char) : List Char → List Char
  | c :: d :: rest =>
    if c = a ∧ d = b then new :: replacePair a b new rest
    else c :: replacePair a b new (d :: rest)
  | cs => cs

/-! ### Searching -/

/-- Whether `needle` stands somewhere in a text. -/
def occursIn (needle : List Char) : List Char → Bool
  | [] => needle.isEmpty
  | c :: cs => needle.isPrefixOf (c :: cs) || occursIn needle cs

/-- Whether `needle` stands somewhere in `hay`. -/
def contains (hay needle : String) : Bool := occursIn needle.toList hay.toList

/-- The texts one after the other, with `separator` between neighbours. -/
def join (separator : String) (parts : List String) : String :=
  String.intercalate separator parts

/-- The number of bytes a text takes in UTF-8. -/
def byteLength : List Char → Nat
  | [] => 0
  | c :: cs => c.utf8Size + byteLength cs

end InvoiceFields.Text
