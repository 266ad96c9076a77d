import InvoiceFields.Decimal.Basic
import InvoiceFields.Text.Blank

/-!
# Why a rule does not match

A rule that yields no value for a document has a reason, which `RuleFault.message` puts into words.
-/

namespace InvoiceFields

/-- Why a rule yields no value. -/
inductive RuleFault where
  /-- No line holds one of the markers. -/
  | anchorNotFound (markers : List String)
  /-- A line or a token that does not exist. -/
  | indexOutOfRange (index : Int) (length : Nat)
  /-- A rule that matches no document. -/
  | unsupported (reason : String)
deriving Repr, DecidableEq

/-- The wording of a reason. -/
def RuleFault.message : RuleFault → String
  | anchorNotFound markers => "anchor not found: " ++ Text.join " | " markers
  | indexOutOfRange index length =>
    "index " ++ Decimal.integerText index ++ " out of range (len " ++
      Decimal.countText length ++ ")"
  | unsupported reason => "unsupported rule: " ++ reason

end InvoiceFields
