import InvoiceFields.Decimal.Basic
import InvoiceFields.Field

/-!
# Extractions

An `Extraction` assigns values to some of the fields: amounts or texts. It is a function of the
field, so two extractions are equal when they agree on every field; `entries` lists it in output
order.
-/

namespace InvoiceFields

/-- The value of a field. -/
inductive FieldValue where
  | amount (d : Decimal)
  | text (s : String)
deriving Repr, DecidableEq

namespace FieldValue

/-- A value as it is shown. -/
def shown : FieldValue → String
  | amount d => d.text
  | text s => s

/-- The amount of a value that is one. -/
def amount? : FieldValue → Option Decimal
  | amount d => some d
  | text _ => none

/-- The text of a value that is one. -/
def text? : FieldValue → Option String
  | amount _ => none
  | text s => some s

end FieldValue

/-- The values of the fields that are resolved. -/
structure Extraction where
  get? : Field → Option FieldValue

namespace Extraction

/-- No field is resolved. -/
def empty : Extraction := ⟨fun _ => none⟩

instance : Inhabited Extraction := ⟨empty⟩

/-- Whether a field is resolved. -/
def contains (e : Extraction) (f : Field) : Bool := (e.get? f).isSome

/-- The amount of a field. -/
def amount? (e : Extraction) (f : Field) : Option Decimal := (e.get? f).bind (·.amount?)

/-- The text of a field. -/
def text? (e : Extraction) (f : Field) : Option String := (e.get? f).bind (·.text?)

/-- The extraction with a field set to a value, or left open. -/
def put (e : Extraction) (f : Field) (v : Option FieldValue) : Extraction :=
  ⟨fun g => if g = f then v else e.get? g⟩

/-- The extraction with a field set to a value. -/
def set (e : Extraction) (f : Field) (v : FieldValue) : Extraction := e.put f (some v)

/-- The extraction without a field. -/
def remove (e : Extraction) (f : Field) : Extraction := e.put f none

/-- The resolved fields with their values, in output order. -/
def entries (e : Extraction) : List (Field × FieldValue) :=
  Field.all.filterMap fun f => (e.get? f).map (f, ·)

/-- The number of resolved fields. -/
def size (e : Extraction) : Nat := e.entries.length

/-- Whether no field is resolved. -/
def isEmpty (e : Extraction) : Bool := e.entries.isEmpty

/-- Whether the base or the total is resolved. -/
def hasTotals (e : Extraction) : Bool := e.contains .base || e.contains .total

/-- The fields of `other` that are open in `e`, in output order. -/
def missing (e other : Extraction) : List Field :=
  Field.all.filter fun f => other.contains f && !e.contains f

/-- The extraction with its open fields taken from another one. -/
def orElse (e other : Extraction) : Extraction := ⟨fun f => (e.get? f).or (other.get? f)⟩

/-- One cell for each field in output order, empty where the field is open. -/
def row (e : Extraction) : List String :=
  Field.all.map fun f => ((e.get? f).map (·.shown)).getD ""

end Extraction

end InvoiceFields
