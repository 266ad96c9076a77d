import InvoiceFields.Heuristics

/-!
# Overrides

An override fills one field of a profile by a procedure of its own, in place of declarative
rules. Profiles name it by its key.
-/

namespace InvoiceFields

/-- A procedure for one field. -/
inductive Override where
  /-- The words behind the announcement of a number, joined. -/
  | invoiceNumberJoined
  /-- The last amount on a total line. -/
  | lastAmountOnTotalLine
  /-- The first plate. -/
  | plateScan
  /-- The first tax identifier other than the receiver's. -/
  | issuerTaxIdScan
  /-- The line below the one that names the client. -/
  | clientAfterAnchor
deriving Repr, DecidableEq

namespace Override

/-- The overrides in the order in which they are listed. -/
def all : List Override :=
  [invoiceNumberJoined, lastAmountOnTotalLine, plateScan, issuerTaxIdScan, clientAfterAnchor]

/-- The name of an override. -/
def name : Override → String
  | invoiceNumberJoined => "invoice_number_joined"
  | lastAmountOnTotalLine => "last_amount_on_total_line"
  | plateScan => "plate_scan"
  | issuerTaxIdScan => "issuer_tax_id_scan"
  | clientAfterAnchor => "client_after_anchor"

/-- The override of a name, whatever the blanks around it. -/
def ofName? (name : String) : Option Override := all.find? (·.name == Text.trim name)

/-- The words behind the first announcement of a number on a line that names an invoice,
joined. -/
def joinedNumber? (doc : Document) : Option String :=
  ((doc.lines.filter (Pattern.invoiceKeyword.occursIn ·.toList)).findSome? fun line =>
    (Pattern.invoiceNumberMarker.find? line.toList).map fun m =>
      String.ofList ((m.after line.toList).filter (!Text.isBlank ·))).filter (!·.isEmpty)

/-- The last amount of the first total line that has one. -/
def lastTotalAmount? (doc : Document) : Option Decimal :=
  (doc.lines.filter Heuristics.isTotalLine).findSome? Amount.last?

/-- The first line that is not blank below the first line with the word `cliente`. -/
def lineAfterClient? (doc : Document) : Option String := do
  let anchor ← doc.findAnchor? ["cliente"]
  ((doc.lines.drop (anchor + 1)).map Text.trim).find? (!·.isEmpty)

/-- The value that an override finds. -/
def apply (doc : Document) (settings : Settings) :
    Override → Except Breakdown (Option FieldValue)
  | invoiceNumberJoined => .ok ((joinedNumber? doc).map .text)
  | lastAmountOnTotalLine => .ok ((lastTotalAmount? doc).map .amount)
  | plateScan => .ok ((Plate.findIn? doc).map .text)
  | issuerTaxIdScan => do return (← settings.search.first? doc).map .text
  | clientAfterAnchor => .ok ((lineAfterClient? doc).map .text)

end Override

end InvoiceFields
