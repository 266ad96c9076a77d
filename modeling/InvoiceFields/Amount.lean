import InvoiceFields.Decimal.Reader
import InvoiceFields.Decimal.Rounding
import InvoiceFields.Pattern.Basic
import InvoiceFields.Pattern.Catalogue
import InvoiceFields.Text.Quoted

/-!
# Amounts

An amount is written with grouped thousands and a comma or a point before the decimals, often
with a currency. `normalize?` reads such a text as an exact decimal, `locate` finds the amounts of
a line, `format` writes one with two decimals, and `toCents` rounds one for output.
-/

namespace InvoiceFields.Amount

/-! ### Reading -/

/-- Characters that say nothing about the value. -/
def decoration : List Char :=
  ['€', '$', '£', '¥', '(', ')', '[', ']', '\x7b', '\x7d', '%', ':', ';', '"', '\'', '*', '=', '#']

/-- Whether a character is a comma or a point. -/
def isSeparator (c : Char) : Bool := c == ',' || c == '.'

/-- The text without currency words, blanks and decoration, and without separators at its end. -/
def bare (cs : List Char) : List Char :=
  Text.dropEndWhile isSeparator
    ((Pattern.currencyWord.erase cs).filter fun c => !Text.isBlank c && !decoration.contains c)

/-- The text with a point before the decimals and no grouping. Of two kinds of separator the one
that stands last marks the decimals; a comma alone marks them too. -/
def canonical (cs : List Char) : List Char :=
  if !cs.contains ',' then cs
  else
    match cs.reverse.find? isSeparator with
    | some '.' => cs.filter (· != ',')
    | _ => (cs.filter (· != '.')).map fun c => if c = ',' then '.' else c

/-- Reads an amount as a decimal. -/
def normalizeChars? (cs : List Char) : Option Decimal :=
  let bare := bare cs
  if bare.any Text.isAsciiDigit then Decimal.readChars? (canonical bare) else none

/-- Reads an amount as a decimal. -/
def normalize? (raw : String) : Option Decimal := normalizeChars? raw.toList

/-- What is said about a text that is no amount. -/
def notNumericMessage (raw : String) : String := "not a numeric value: " ++ Text.quoted raw

/-! ### Finding -/

/-- Whether a text goes on with a percent sign, blanks aside. -/
def isPercentNext (cs : List Char) : Bool := (cs.dropWhile Text.isBlank).head? == some '%'

/-- The amounts of a line, from left to right. A number with a percent sign is a rate and is
left out. -/
def locate (line : String) : List (Found Decimal) :=
  (Pattern.amount.findAll line.toList).filterMap fun m =>
    if isPercentNext (m.after line.toList) then none
    else (normalize? m.span.text).map fun value => ⟨value, m.span⟩

/-- The first amount of a line. -/
def first? (line : String) : Option Decimal := (locate line).head?.map (·.value)

/-- The last amount of a line. -/
def last? (line : String) : Option Decimal := (locate line).getLast?.map (·.value)

/-! ### Writing -/

/-- Digits with a point before each group of three, counted from the end. -/
def groupThousands : List Char → List Char
  | [] => []
  | c :: cs =>
    if cs.length % 3 = 0 && !cs.isEmpty then c :: '.' :: groupThousands cs
    else c :: groupThousands cs

/-- An amount with grouped thousands and the first two decimals behind a comma. -/
def format (d : Decimal) : String :=
  String.ofList ((if d.isNegative then ['-'] else []) ++ groupThousands d.wholeDigits ++
    ',' :: (d.fractionDigits ++ ['0', '0']).take 2)

/-- An amount rounded to cents, a half away from zero, with two decimals where there is room. -/
def toCents (d : Decimal) : Decimal := (d.roundHalfUp 2).withPlaces 2

end InvoiceFields.Amount
