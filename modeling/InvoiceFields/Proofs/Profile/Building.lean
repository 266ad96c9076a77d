import InvoiceFields.Proofs.Answer
import InvoiceFields.Proofs.TaxId.CanonicalForm
import InvoiceFields.Record.Registry

/-!
# How profiles and registries come about

A profile starts with a name and gets keywords, tax identifiers, a rate, rules and overrides, in
any order and any number of times; a registry starts empty and gets profiles. `Profile.Built` and
`Registry.Built` are what can come about so. A built profile has canonical identifiers, no empty
keyword and at most one override for a field, and rules in JSON describe built registries.
-/

namespace InvoiceFields

namespace Profile

/-! ### Profiles -/

/-- The profiles that can be built. -/
inductive Built : Profile → Prop
  | named (name : String) : Built (.named name)
  | withKeywords {p : Profile} (built : Built p) (keywords : List String) :
      Built (p.withKeywords keywords)
  | withTaxIds {p : Profile} (built : Built p) (ids : List String) : Built (p.withTaxIds ids)
  | withRate {p : Profile} (built : Built p) (rate : Option VatRate) : Built (p.withRate rate)
  | withMapping {p : Profile} (built : Built p) (mapping : Mapping) :
      Built (p.withMapping mapping)
  | withOverride {p p' : Profile} {f : Field} {name : String} (built : Built p)
      (added : p.withOverride f name = .ok p') : Built p'

variable {p p' : Profile} {f : Field} {name : String}

/-- An override is added under a name that stands for one, in place of any other for its field. -/
theorem withOverride_eq_ok :
    p.withOverride f name = .ok p' ↔ ∃ o, Override.ofName? name = some o ∧
      p' = { p with overrides := p.overrides.filter (·.1 != f) ++ [(f, o)] } := by
  rw [withOverride]
  cases Override.ofName? name with
  | none => simp
  | some o => simp [eq_comm]

/-- Every identifier of a profile is canonical and names someone. -/
theorem Built.canonical (h : p.Built) {id : String} (hid : id ∈ p.taxIds) :
    TaxId.normalize id = id ∧ id ≠ "" := by
  induction h with
  | named => exact nomatch hid
  | withKeywords built keywords ih => exact ih hid
  | withTaxIds built ids ih =>
    rcases List.mem_append.mp hid with hold | hnew
    · exact ih hold
    · obtain ⟨hmem, hnonempty⟩ := List.mem_filter.mp hnew
      obtain ⟨raw, -, rfl⟩ := List.mem_map.mp hmem
      exact ⟨TaxId.normalize_normalize raw, by simpa using hnonempty⟩
  | withRate built rate ih => exact ih hid
  | withMapping built mapping ih => exact ih hid
  | withOverride built added ih =>
    obtain ⟨o, -, rfl⟩ := withOverride_eq_ok.mp added
    exact ih hid

/-- No keyword of a profile is empty. -/
theorem Built.keyword_ne_empty (h : p.Built) {k : String} (hk : k ∈ p.keywords) : k ≠ "" := by
  induction h with
  | named => exact nomatch hk
  | withKeywords built keywords ih =>
    rcases List.mem_append.mp hk with hold | hnew
    · exact ih hold
    · simpa using (List.mem_filter.mp hnew).2
  | withTaxIds built ids ih => exact ih hk
  | withRate built rate ih => exact ih hk
  | withMapping built mapping ih => exact ih hk
  | withOverride built added ih =>
    obtain ⟨o, -, rfl⟩ := withOverride_eq_ok.mp added
    exact ih hk

/-- Every keyword of a profile is the cleaned form of some text. -/
theorem Built.exists_cleanKeyword (h : p.Built) {k : String} (hk : k ∈ p.keywords) :
    ∃ raw, cleanKeyword raw = k := by
  induction h with
  | named => exact nomatch hk
  | withKeywords built keywords ih =>
    rcases List.mem_append.mp hk with hold | hnew
    · exact ih hold
    · obtain ⟨raw, -, hraw⟩ := List.mem_map.mp (List.mem_filter.mp hnew).1
      exact ⟨raw, hraw⟩
  | withTaxIds built ids ih => exact ih hk
  | withRate built rate ih => exact ih hk
  | withMapping built mapping ih => exact ih hk
  | withOverride built added ih =>
    obtain ⟨o, -, rfl⟩ := withOverride_eq_ok.mp added
    exact ih hk

/-- A field has at most one override. -/
theorem Built.nodup_overrides (h : p.Built) : (p.overrides.map (·.1)).Nodup := by
  induction h with
  | named => exact List.nodup_nil
  | withKeywords built keywords ih => exact ih
  | withTaxIds built ids ih => exact ih
  | withRate built rate ih => exact ih
  | withMapping built mapping ih => exact ih
  | @withOverride p p' f name built added ih =>
    obtain ⟨o, -, rfl⟩ := withOverride_eq_ok.mp added
    have hkept : ((p.overrides.filter (·.1 != f)).map (·.1)).Nodup :=
      (List.filter_sublist.map _).nodup ih
    have hgone : f ∉ (p.overrides.filter (·.1 != f)).map (·.1) := by simp
    rw [List.map_append, List.nodup_append]
    refine ⟨hkept, List.nodup_cons.mpr ⟨List.not_mem_nil, List.nodup_nil⟩, ?_⟩
    rintro g hg _ hf rfl
    rw [List.map_singleton, List.mem_singleton] at hf
    obtain rfl : g = f := hf
    exact hgone hg

end Profile

/-! ### Registries -/

namespace Registry

/-- The registries that can be built. -/
inductive Built : Registry → Prop
  | empty : Built .empty
  | register {r r' : Registry} {p : Profile} (built : Built r) (profile : p.Built)
      (added : r.register p = .ok r') : Built r'

variable {r r' : Registry} {p : Profile}

/-- A registered profile stands behind those that were registered before. -/
theorem register_eq_ok :
    r.register p = .ok r' ↔
      p.isReachable = true ∧ r.get? p.name = none ∧ r' = ⟨r.profiles ++ [p]⟩ := by
  rw [register]
  cases p.isReachable <;> cases r.get? p.name <;> simp [eq_comm]

/-- A built registry holds built profiles. -/
theorem Built.profile (h : r.Built) (hp : p ∈ r.profiles) : p.Built := by
  induction h with
  | empty => exact nomatch hp
  | register built profile added ih =>
    obtain ⟨-, -, rfl⟩ := register_eq_ok.mp added
    rcases List.mem_append.mp hp with hold | hnew
    · exact ih hold
    · rw [List.mem_singleton.mp hnew]
      exact profile

end Registry

/-! ### Rules in JSON -/

theorem ProfileRecord.built_of_addOverrides {overrides : List (String × String)} {p p' : Profile}
    (hp : p.Built) (h : addOverrides overrides p = .ok p') : p'.Built := by
  induction overrides generalizing p with
  | nil =>
    cases h
    exact hp
  | cons entry rest ih =>
    obtain ⟨f, -, h⟩ := bind_eq_ok.mp h
    obtain ⟨q, hq, h⟩ := bind_eq_ok.mp h
    exact ih (hp.withOverride hq) h

theorem ProfileRecord.built_profile {record : ProfileRecord} {p : Profile}
    (h : record.profile = .ok p) : p.Built :=
  built_of_addOverrides
    (((((Profile.Built.named _).withKeywords _).withTaxIds _).withRate _).withMapping _) h

theorem Registry.built_of_registerAll {records : List ProfileRecord} {r r' : Registry}
    (hr : r.Built) (h : registerAll records r = .ok r') : r'.Built := by
  induction records generalizing r with
  | nil =>
    cases h
    exact hr
  | cons record rest ih =>
    obtain ⟨p, hp, h⟩ := bind_eq_ok.mp h
    obtain ⟨q, hq, h⟩ := bind_eq_ok.mp h
    exact ih (hr.register (ProfileRecord.built_profile hp) hq) h

/-- The registry that rules in JSON describe is built. -/
theorem Registry.built_of_ofText {text : String} {r : Registry} (h : ofText text = .ok r) :
    r.Built := by
  rw [ofText] at h
  split at h
  case h_1 => exact nomatch h
  case h_2 records hrecords =>
    split at h
    case h_1 => exact nomatch h
    case h_2 q hq =>
      cases h
      exact built_of_registerAll .empty hq

end InvoiceFields
