import InvoiceFields.Pattern.Build

/-!
# The patterns of an invoice

What amounts, dates, tax identifiers, plates and invoice numbers look like on a line, and the
words that mark a line.
-/

namespace InvoiceFields.Pattern

/-! ### Amounts -/

/-- The words of the currencies. -/
def currencyWord : Pattern :=
  choice [seq (word "euro") (optional (anyCase 's')), word "eur", word "usd"]

/-- A number with a currency mark: digits grouped in threes or a plain run, at most two decimals.
A plain space never groups. -/
def amount : Pattern :=
  sequence [
    optional (anyOf "-+"),
    alt (sequence [digit, upTo digit 2, some (seq (anyOf ".,\u00a0\u202f") (times digit 3))])
      (some digit),
    optional (sequence [anyOf ".,", digit, upTo digit 1]),
    optional (seq (many blank)
      (choice [char '€', seq (word "euro") (optional (anyCase 's')), word "eur", char '$',
        word "usd"]))]

/-! ### Dates -/

/-- One or two digits. -/
def oneOrTwoDigits : Pattern := seq digit (upTo digit 1)

/-- A date in numbers: day, month, and a year of four or two digits. -/
def dateToken : Pattern :=
  sequence [boundary, group 1 oneOrTwoDigits, anyOf "/-.", group 2 oneOrTwoDigits, anyOf "/-.",
    group 3 (alt (times digit 4) (times digit 2)), boundary]

/-- The names of the months, both spellings of September. -/
def monthNames : List String :=
  ["enero", "febrero", "marzo", "abril", "mayo", "junio", "julio", "agosto", "septiembre",
    "setiembre", "octubre", "noviembre", "diciembre"]

/-- A date with the month in words. -/
def dateSpanishLong : Pattern :=
  sequence [boundary, group 1 oneOrTwoDigits, some blank, word "de", some blank,
    group 2 (choice (monthNames.map word)), some blank,
    optional (alt (seq (word "de") (some blank)) (seq (word "del") (some blank))),
    group 3 (times digit 4), boundary]

/-! ### Tax identifiers -/

/-- An optional dash or dot. -/
def separator : Pattern := optional (anyOf "-.")

/-- The first letters of company identifiers. -/
def companyLetter : Pattern := anyOf "ABCDEFGHJNPQRSUVW"

/-- The first letters of foreigners' identifiers. -/
def foreignerLetter : Pattern := anyOf "XYZ"

/-- A capital. -/
def capital : Pattern := one fun c => decide ('A' ≤ c) && decide (c ≤ 'Z')

/-- A control character of a company: an ASCII digit or a letter up to `J`. -/
def companyControl : Pattern :=
  one fun c => Text.isAsciiDigit c || (decide ('A' ≤ c) && decide (c ≤ 'J'))

/-- A tax identifier in upper-cased text, with separators and an optional country. -/
def taxIdToken : Pattern :=
  sequence [boundary, optional (sequence [char 'E', char 'S', separator]),
    choice [
      sequence [companyLetter, separator, times digit 7, separator, companyControl],
      sequence [times digit 8, separator, capital],
      sequence [foreignerLetter, separator, times digit 7, separator, capital]],
    boundary]

/-- A tax identifier in its canonical form and nothing else. -/
def taxIdCanonical : Pattern :=
  sequence [start,
    choice [
      sequence [companyLetter, times digit 7, companyControl],
      sequence [times digit 8, capital],
      sequence [foreignerLetter, times digit 7, capital]],
    finish]

/-! ### Plates -/

/-- Four digits and three consonants, in any case, at most one blank or dash between. -/
def plateToken : Pattern :=
  sequence [boundary, group 1 (times digit 4),
    optional (one fun c => Text.isBlank c || c == '-'),
    group 2 (times (anyCaseOf "bcdfghjklmnprstvwxyz") 3), boundary]

/-- A plate in its canonical form and nothing else. -/
def plateCanonical : Pattern :=
  sequence [start, times digit 4, times (anyOf "BCDFGHJKLMNPRSTVWXYZ") 3, finish]

/-! ### Invoice numbers -/

/-- The words that announce a number, with what may stand behind them. -/
def invoiceNumberMarker : Pattern :=
  sequence [
    choice [
      sequence [boundary, anyCase 'n', optional blank, anyOf "º°"],
      sequence [boundary, word "no", char '.'],
      sequence [boundary, word "núm", optional (word "ero"), optional (char '.')],
      sequence [boundary, word "num", optional (word "ero"), optional (char '.')]],
    many blank, optional (char ':'), many blank]

/-- A letter or a digit, in any case. -/
def numberStart : Pattern :=
  one fun c => Text.isAsciiDigit c ||
    "abcdefghijklmnopqrstuvwxyz".toList.any fun x => c == x || (otherForms x).contains c

/-- An announced invoice number, which is group 1. -/
def invoiceNumber : Pattern :=
  seq invoiceNumberMarker (group 1 (seq numberStart (many (alt numberStart (anyOf "/-_.")))))

/-! ### Words that mark a line -/

/-- The word for the total. -/
def totalKeyword : Pattern := keyword (word "total")

/-- The words for amounts that are not the total. -/
def notTotalKeyword : Pattern :=
  keyword (choice [sequence [word "sub", optional (char '-'), word "total"], word "base",
    word "iva", word "impuesto", word "cuota"])

/-- The words for the taxable base. -/
def taxBaseKeyword : Pattern :=
  keyword (seq (word "base") (optional (seq (some blank) (word "imponible"))))

/-- The words for a corrective invoice. -/
def correctiveInvoice : Pattern := keyword (choice [word "rectificativa", word "abono"])

/-- The words for a pro-forma invoice. -/
def proformaInvoice : Pattern :=
  keyword (sequence [word "pro", optional (char '-'), word "forma"])

/-- The word for an invoice. -/
def invoiceKeyword : Pattern := keyword (word "factura")

/-- The words that open the section about the client. -/
def clientSection : Pattern :=
  keyword (choice [word "cliente", word "destinatario",
    sequence [word "facturar", some blank, anyCase 'a']])

/-- The patterns by name. -/
def catalogue : List (String × Pattern) := [
  ("amount", amount), ("currency_word", currencyWord), ("date_token", dateToken),
  ("date_spanish_long", dateSpanishLong), ("tax_id_token", taxIdToken),
  ("tax_id_canonical", taxIdCanonical), ("plate_token", plateToken),
  ("plate_canonical", plateCanonical), ("invoice_number_marker", invoiceNumberMarker),
  ("invoice_number", invoiceNumber), ("total_keyword", totalKeyword),
  ("not_total_keyword", notTotalKeyword), ("tax_base_keyword", taxBaseKeyword),
  ("corrective_invoice", correctiveInvoice), ("proforma_invoice", proformaInvoice),
  ("invoice_keyword", invoiceKeyword), ("client_section", clientSection)]

end InvoiceFields.Pattern
