import InvoiceFields.Text.Blank
import InvoiceFields.Text.Case

/-!
# Names of companies

A line names a company if it is written in capitals and carries a form of company such as `S.L.`.
-/

namespace InvoiceFields.Party

/-- The forms of companies, without points. -/
def companyForms : List String := ["SL", "SA", "SLU", "SAU", "SLL", "SCOOP", "CB", "SC", "SLP"]

/-- The pieces of a line between blanks and commas, in capitals and without points. -/
def pieces (line : String) : List String :=
  ((Text.splitWhere (fun c => Text.isBlank c || c == ',') line.toList).map fun piece =>
    String.ofList (Text.upperChars (piece.filter (· != '.')))).filter (!·.isEmpty)

/-- Whether a list holds a form of company, in one piece or in two neighbours. -/
def holdsForm : List String → Bool
  | [] => false
  | [a] => companyForms.contains a
  | a :: b :: rest =>
    companyForms.contains a || companyForms.contains (a ++ b) || holdsForm (b :: rest)

/-- Whether a line carries a form of company. -/
def hasCompanyForm (line : String) : Bool := holdsForm (pieces line)

/-- Whether a line has letters, none of them small. -/
def isUppercaseLine (line : String) : Bool :=
  let letters := line.toList.filter Text.isLetter
  !letters.isEmpty && letters.all (!Text.isLowercase ·)

/-- Whether a line names a company. -/
def isCompanyLine (line : String) : Bool := isUppercaseLine line && hasCompanyForm line

end InvoiceFields.Party
