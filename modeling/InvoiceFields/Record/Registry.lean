import InvoiceFields.Record.Mapping
import InvoiceFields.Record.VatRate
import InvoiceFields.Registry

/-!
# Registries in JSON

The rules of an installation are an object with a list of profiles. `Registry.ofText` reads them
and registers the profiles in order; the first fault ends it.
-/

namespace InvoiceFields

open Json (Fault Tree Slot)

/-- A part of a record that is kept when it has been read. -/
def Json.Slot.part {σ α : Type} (key : String) (get : σ → Option α) (set : σ → α → σ)
    (read : Tree → Except Fault α) : Slot σ :=
  ⟨key, fun s => (get s).isSome, fun s t => (read t).map (set s)⟩

/-! ### Profiles -/

/-- The parts of a profile that have been read. -/
structure ProfileRecord where
  name : Option String
  keywords : Option (List String)
  taxIds : Option (List String)
  rate : Option (Option VatRate)
  fields : Option Mapping
  /-- The names of overrides by the keys of fields, in the order of the keys. -/
  overrides : Option (List (String × String))

namespace ProfileRecord

/-- A record nothing of which has been read. -/
def empty : ProfileRecord := ⟨none, none, none, none, none, none⟩

/-- Reads a member that names an override. -/
def readOverride (s : List (String × String)) (key : String) (value : Tree) :
    Except Fault (List (String × String)) := do
  return Json.insertMember key (← value.text) s

/-- The parts of a profile in order. -/
def slots : List (Slot ProfileRecord) := [
  .part "name" name (fun r x => { r with name := some x }) Tree.text,
  .part "keywords" keywords (fun r x => { r with keywords := some x }) (Tree.list Tree.text),
  .part "tax_ids" taxIds (fun r x => { r with taxIds := some x }) (Tree.list Tree.text),
  .part "vat_rate" rate (fun r x => { r with rate := some x }) (Tree.optional VatRate.ofTree),
  .part "fields" fields (fun r x => { r with fields := some x }) Mapping.ofTree,
  .part "overrides" overrides (fun r x => { r with overrides := some x })
    (Tree.members readOverride [])]

/-- The misfit of a profile without a name. -/
def unnamed : Tree → Json.Misfit
  | .array .. => .length 0 "struct ProfileConfig with 6 elements"
  | _ => .missing "name"

/-- Reads the record of a profile, which must have a name. -/
def ofTree (t : Tree) : Except Fault ProfileRecord := do
  let r ← t.record slots empty
  if r.name.isSome then return r else .error (.unfit (unnamed t))

/-- Adds overrides to a profile. -/
def addOverrides : List (String × String) → Profile → Except ConfigError Profile
  | [], p => .ok p
  | (key, name) :: rest, p => do
    let f ← Field.ofKey key
    addOverrides rest (← p.withOverride f name)

/-- The profile of a record. -/
def profile (r : ProfileRecord) : Except ConfigError Profile :=
  addOverrides (r.overrides.getD [])
    (((((Profile.named (Text.trim (r.name.getD ""))).withKeywords (r.keywords.getD [])).withTaxIds
      (r.taxIds.getD [])).withRate r.rate.join).withMapping (r.fields.getD .empty))

end ProfileRecord

/-! ### Registries -/

/-- Why rules cannot be loaded. -/
inductive RulesFault where
  /-- The text cannot be read. -/
  | unreadable (fault : Fault)
  /-- A profile cannot be built or registered. -/
  | config (e : ConfigError)
deriving Repr, DecidableEq

/-- The wording of a fault of rules. -/
def RulesFault.message : RulesFault → String
  | unreadable fault => "failed to parse rule configuration: " ++ fault.message
  | config e => e.message

namespace Registry

/-- The part of the rules that lists profiles. -/
def slots : List (Slot (Option (List ProfileRecord))) := [
  .part "profiles" id (fun _ x => some x) (Tree.list ProfileRecord.ofTree)]

/-- Reads the records of profiles. -/
def readRecords (t : Tree) : Except Fault (List ProfileRecord) :=
  (t.record slots none).map (·.getD [])

/-- Registers the profiles of records in order. -/
def registerAll : List ProfileRecord → Registry → Except ConfigError Registry
  | [], r => .ok r
  | record :: rest, r => do registerAll rest (← r.register (← record.profile))

/-- The registry of rules in JSON. -/
def ofText (text : String) : Except RulesFault Registry :=
  match Json.decode readRecords text with
  | .error f => .error (.unreadable f)
  | .ok records =>
    match registerAll records .empty with
    | .error e => .error (.config e)
    | .ok r => .ok r

end Registry

end InvoiceFields
