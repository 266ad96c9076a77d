import InvoiceFields.Text.Quoted

/-!
# Faults of a configuration

What can be wrong with well-formed settings and rules. Each fault names its cause;
`ConfigError.message` is its wording.
-/

namespace InvoiceFields

/-- A fault of settings or rules. -/
inductive ConfigError where
  /-- A key that names no field. -/
  | unknownField (key : String)
  /-- A field of a profile is to be filled by an override that does not exist. -/
  | unknownOverride (profile field name : String)
  /-- A rate that is not above zero, or not a number at all. -/
  | invalidVatRate (text : String)
  /-- A profile that nothing can select. -/
  | unreachableProfile (name : String)
  /-- A second profile of the same name. -/
  | duplicateProfile (name : String)
deriving Repr, DecidableEq

/-- The wording of a fault. -/
def ConfigError.message : ConfigError → String
  | unknownField key => "unknown field key: " ++ key
  | unknownOverride profile field name =>
    "profile " ++ profile ++ ": unknown override " ++ Text.quoted name ++ " for field " ++ field
  | invalidVatRate text => "invalid VAT rate: " ++ text
  | unreachableProfile name => "profile " ++ name ++ " has neither keywords nor tax ids"
  | duplicateProfile name => "duplicate profile name: " ++ name

end InvoiceFields
