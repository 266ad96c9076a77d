import InvoiceFields.Mapping
import InvoiceFields.Record.Rule

/-!
# Mappings in JSON

A mapping is an object with a list of records for each field. Every record makes an attempt: one
that cannot be read makes the attempt that never succeeds, so that the others keep their places.
-/

namespace InvoiceFields.Mapping

open Json (Fault Tree)

/-- Reads the records of a field. -/
def readMember (m : Mapping) (key : String) (value : Tree) : Except Fault Mapping :=
  match Field.ofKey key with
  | .error e => .error (.unfit (.config e))
  | .ok f => do
    let records ← value.list Tree.json
    return m.push f (records.map Attempt.ofRecord)

/-- Reads a mapping. -/
def ofTree (t : Tree) : Except Fault Mapping := t.members readMember .empty

end InvoiceFields.Mapping
