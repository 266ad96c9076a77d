import InvoiceFields.Amount
import InvoiceFields.Date
import InvoiceFields.Derivation
import InvoiceFields.Party
import InvoiceFields.Plate
import InvoiceFields.Settings

/-!
# Heuristics for any layout

Each definition looks for one field of an invoice by words that invoices of any layout use.
`scan` runs them all, and `extract` derives the missing amounts as well.
-/

namespace InvoiceFields.Heuristics

/-! ### The invoice itself -/

/-- Whether a pattern matches on some line. -/
def anyLine (p : Pattern) (doc : Document) : Bool :=
  doc.lines.any fun line => p.occursIn line.toList

/-- The kind of a document, the most specific one first. -/
def kind? (doc : Document) : Option String :=
  if anyLine Pattern.correctiveInvoice doc then some "rectificativa"
  else if anyLine Pattern.proformaInvoice doc then some "proforma"
  else if anyLine Pattern.invoiceKeyword doc then some "factura"
  else none

/-- The number announced on a line, without dots and dashes at its end. -/
def announcedNumber? (line : String) : Option String :=
  (Pattern.invoiceNumber.find? line.toList).map fun m =>
    String.ofList (Text.dropEndWhile (fun c => c == '.' || c == '-') (m.groupText 1).toList)

/-- The number announced on a line that names an invoice, or on the line below it. -/
def invoiceNumber? (doc : Document) : Option String :=
  doc.withNext.findSome? fun (line, next) =>
    if Pattern.invoiceKeyword.occursIn line.toList then
      (announcedNumber? line).or (next.bind announcedNumber?)
    else none

/-! ### The parties -/

/-- The first header line that names a company. -/
def issuer? (doc : Document) (headerLines : Nat) : Option String :=
  ((doc.lines.take headerLines).map Text.trim).find? Party.isCompanyLine

/-- Whether a text has letters and is more than its first tax identifier. -/
def isName (s : String) : Bool :=
  s.toList.any Text.isLetter &&
    match Pattern.taxIdToken.find? (Text.upperChars s.toList) with
    | none => true
    | some m => m.span.text.utf8ByteSize < s.utf8ByteSize

/-- What stands behind the first client header, and the lines below it. -/
def clientSection? : List String → Option (List Char × List String)
  | [] => none
  | line :: below =>
    match Pattern.clientSection.find? line.toList with
    | some m =>
      some (Text.stripWhile (fun c => c == ':' || Text.isBlank c) (m.after line.toList), below)
    | none => clientSection? below

/-- The name behind the first client header. If the header stands alone, the name is on the next
line that is not blank. -/
def client? (doc : Document) : Option String := do
  let (behind, below) ← clientSection? doc.lines
  let candidate ← if behind.isEmpty then (below.map Text.trim).find? (!·.isEmpty)
    else some (String.ofList behind)
  if isName candidate then some candidate else none

/-- The receiver's identifier, if the document mentions it. -/
def clientTaxId (doc : Document) (settings : Settings) : Except Breakdown (Option String) :=
  match settings.receiver with
  | none => .ok none
  | some receiver => do
    let ids ← (TaxId.Search.excluding settings.validated none).all doc
    return if ids.any settings.isReceiver then some (TaxId.normalize receiver) else none

/-! ### The amounts -/

/-- Whether a line states the total. -/
def isTotalLine (line : String) : Bool :=
  Pattern.totalKeyword.occursIn line.toList && !Pattern.notTotalKeyword.occursIn line.toList

/-- The last amount of the first total line that has one, itself or on the line below it. -/
def total? (doc : Document) : Option Decimal :=
  doc.withNext.findSome? fun (line, next) =>
    if isTotalLine line then
      (Amount.last? line).or
        ((next.filter (!Pattern.notTotalKeyword.occursIn ·.toList)).bind Amount.first?)
    else none

/-- The first amount behind a word for the taxable base. -/
def base? (doc : Document) : Option Decimal :=
  doc.lines.findSome? fun line =>
    (Pattern.taxBaseKeyword.find? line.toList).bind fun m =>
      Amount.first? (String.ofList (m.after line.toList))

/-! ### All fields -/

/-- The fields that the heuristics find. -/
def scan (doc : Document) (settings : Settings) : Except Breakdown Extraction := do
  let issuerTaxId ← settings.search.first? doc
  let clientTaxId ← clientTaxId doc settings
  return (((((((((Extraction.empty.put .type ((kind? doc).map .text)).put
    .date ((doc.lines.findSome? Date.find?).map .text)).put
    .invoiceNumber ((invoiceNumber? doc).map .text)).put
    .issuer ((issuer? doc settings.headerLines).map .text)).put
    .issuerTaxId (issuerTaxId.map .text)).put
    .client ((client? doc).map .text)).put
    .clientTaxId (clientTaxId.map .text)).put
    .vehiclePlate ((Plate.findIn? doc).map .text)).put
    .total ((total? doc).map .amount)).put
    .base ((base? doc).map .amount)

/-- The fields that the heuristics find, with the missing amounts derived. -/
def extract (doc : Document) (settings : Settings) (rate : VatRate) :
    Except Breakdown Extraction := do
  return (← (← scan doc settings).derive rate).1

end InvoiceFields.Heuristics
