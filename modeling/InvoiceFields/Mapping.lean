import InvoiceFields.Attempt
import InvoiceFields.Derivation

/-!
# Mappings from fields to attempts

A `Mapping` lists attempts for each of its fields, in the order of declaration. `resolve` fills
the fields of a document; `extract` derives the missing amounts as well.
-/

namespace InvoiceFields

/-- Fields with their attempts. -/
structure Mapping where
  entries : List (Field × List Attempt)
deriving Repr, DecidableEq

namespace Mapping

/-- The mapping without fields. -/
def empty : Mapping := ⟨[]⟩

instance : Inhabited Mapping := ⟨empty⟩

/-- Adds attempts for a field behind those that it has, or as a new last entry. -/
def pushEntry (f : Field) (attempts : List Attempt) :
    List (Field × List Attempt) → List (Field × List Attempt)
  | [] => [(f, attempts)]
  | (g, existing) :: rest =>
    if g = f then (g, existing ++ attempts) :: rest else (g, existing) :: pushEntry f attempts rest

/-- Adds attempts for a field behind those that it has. -/
def push (m : Mapping) (f : Field) (attempts : List Attempt) : Mapping :=
  ⟨pushEntry f attempts m.entries⟩

/-- The attempts for a field that is declared. -/
def attempts? (m : Mapping) (f : Field) : Option (List Attempt) := m.entries.lookup f

/-- The declared fields in order. -/
def fields (m : Mapping) : List Field := m.entries.map (·.1)

/-- The number of declared fields. -/
def size (m : Mapping) : Nat := m.entries.length

/-- Whether no field is declared. -/
def isEmpty (m : Mapping) : Bool := m.entries.isEmpty

/-- The value of one field. -/
def value? (m : Mapping) (f : Field) (doc : Document) (settings : Settings) : Option FieldValue :=
  (m.attempts? f).bind (Attempt.firstValue? doc settings f)

/-- The values of the declared fields that are not left out. -/
def resolve (m : Mapping) (doc : Document) (settings : Settings) (skip : Field → Bool) :
    Extraction :=
  (m.entries.filter (!skip ·.1)).foldl
    (fun e (f, attempts) =>
      match Attempt.firstValue? doc settings f attempts with
      | some v => e.set f v
      | none => e)
    Extraction.empty

/-- The values of the declared fields, with the missing amounts derived. -/
def extract (m : Mapping) (doc : Document) (settings : Settings) (rate : VatRate) :
    Except Breakdown Extraction := do
  return (← (m.resolve doc settings fun _ => false).derive rate).1

end Mapping

end InvoiceFields
