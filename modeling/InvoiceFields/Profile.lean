import InvoiceFields.Mapping
import InvoiceFields.Override

/-!
# Profiles

A `Profile` describes the invoices of one source: keywords of file names and tax identifiers that
select it, a VAT rate of its own, and rules and overrides for the fields. An override of a field
takes the place of the rules for it, also where it finds nothing.
-/

namespace InvoiceFields

/-- What is known about the invoices of one source. -/
structure Profile where
  name : String
  /-- Lower-case pieces of the names of files. -/
  keywords : List String
  /-- Canonical identifiers of issuers. -/
  taxIds : List String
  /-- The VAT rate, if it is not the one of the run. -/
  rate : Option VatRate
  mapping : Mapping
  overrides : List (Field × Override)
deriving Repr, DecidableEq

namespace Profile

/-! ### Building -/

/-- The profile that has nothing but a name. -/
def named (name : String) : Profile := ⟨name, [], [], none, .empty, []⟩

/-- A keyword in the form in which it is compared. -/
def cleanKeyword (k : String) : String := Text.lower (Text.trim k)

/-- Adds keywords. Blank ones are left out. -/
def withKeywords (p : Profile) (keywords : List String) : Profile :=
  { p with keywords := p.keywords ++ (keywords.map cleanKeyword).filter (!·.isEmpty) }

/-- Adds tax identifiers. Those that are empty in canonical form are left out. -/
def withTaxIds (p : Profile) (ids : List String) : Profile :=
  { p with taxIds := p.taxIds ++ (ids.map TaxId.normalize).filter (!·.isEmpty) }

/-- Sets the VAT rate. -/
def withRate (p : Profile) (rate : Option VatRate) : Profile := { p with rate := rate }

/-- Sets the rules. -/
def withMapping (p : Profile) (mapping : Mapping) : Profile := { p with mapping := mapping }

/-- Has a field filled by the override of a name, in place of any other override. -/
def withOverride (p : Profile) (f : Field) (name : String) : Except ConfigError Profile :=
  match Override.ofName? name with
  | some o => .ok { p with overrides := p.overrides.filter (·.1 != f) ++ [(f, o)] }
  | none => .error (.unknownOverride p.name f.key name)

/-! ### Selecting -/

/-- Whether a profile has a keyword or a tax identifier. -/
def isReachable (p : Profile) : Bool := !p.keywords.isEmpty || !p.taxIds.isEmpty

/-- Whether a keyword occurs in the name of a source, in any case. -/
def matchesSource (p : Profile) (source : String) : Bool :=
  let lowered := Text.lower source
  p.keywords.any (Text.contains lowered)

/-- Whether some of the identifiers found belong to the profile. -/
def matchesTaxIds (p : Profile) (found : List String) : Bool :=
  p.taxIds.any fun id => found.any (TaxId.same id)

/-! ### Extracting -/

/-- Whether a field has an override. -/
def isOverridden (p : Profile) (f : Field) : Bool := p.overrides.any (·.1 == f)

/-- Fills fields by overrides, where they find an acceptable value. -/
def applyOverrides (doc : Document) (settings : Settings) :
    List (Field × Override) → Extraction → Except Breakdown Extraction
  | [], e => .ok e
  | (f, o) :: rest, e => do
    let found ← o.apply doc settings
    applyOverrides doc settings rest <|
      match found.filter (settings.accepts f) with
      | some v => e.set f v
      | none => e

/-- The values of the fields according to the rules and overrides. -/
def resolve (p : Profile) (doc : Document) (settings : Settings) : Except Breakdown Extraction :=
  applyOverrides doc settings p.overrides (p.mapping.resolve doc settings p.isOverridden)

/-- The values of the fields, with the missing amounts derived. -/
def extract (p : Profile) (doc : Document) (settings : Settings) (rate : VatRate) :
    Except Breakdown Extraction := do
  return (← (← p.resolve doc settings).derive rate).1

end Profile

end InvoiceFields
