import InvoiceFields.Proofs.Mapping.Building
import InvoiceFields.Proofs.Profile.Building

/-!
# Which profiles a registry accepts

A registry takes a profile that can be selected and has a name of its own, and a call that fails
leaves it as it was (`call_spec`). So every registry that calls lead to is well-formed: its names
differ, all its profiles can be selected, and nothing in them is empty or listed twice
(`WellFormed.afterCalls`).
-/

namespace InvoiceFields.Registry

variable {r r' : Registry} {p : Profile}

/-! ### Calls -/

/-- The answer to a call that registers a profile, and the registry behind it. A call that fails
leaves the registry as it was. -/
def call (r : Registry) (p : Profile) : Except ConfigError Unit × Registry :=
  match r.register p with
  | .ok r' => (.ok (), r')
  | .error e => (.error e, r)

/-- The registry behind some calls. -/
def afterCalls (r : Registry) (calls : List Profile) : Registry :=
  calls.foldl (fun r p => (r.call p).2) r

/-- A profile has a keyword or an identifier. -/
theorem isReachable_iff : p.isReachable = true ↔ p.keywords ≠ [] ∨ p.taxIds ≠ [] := by
  simp [Profile.isReachable]

/-- A registry has no profile of a name. -/
theorem get?_eq_none {name : String} :
    r.get? name = none ↔ ∀ q ∈ r.profiles, Text.equalIgnoringAsciiCase q.name name = false := by
  simp [get?]

theorem register_eq_error {e : ConfigError} :
    r.register p = .error e ↔ ¬ p.isReachable = true ∧ e = .unreachableProfile p.name ∨
      p.isReachable = true ∧ r.get? p.name ≠ none ∧ e = .duplicateProfile p.name := by
  rw [register]
  cases p.isReachable <;> cases r.get? p.name <;> simp [eq_comm]

/-- What a call does: which profiles it takes, where it puts them, and what it says of others. -/
theorem call_spec (r : Registry) (p : Profile) :
    ((r.call p).1 = .ok () ↔ (p.keywords ≠ [] ∨ p.taxIds ≠ []) ∧
        ∀ q ∈ r.profiles, Text.equalIgnoringAsciiCase q.name p.name = false) ∧
      ((r.call p).1 = .ok () → (r.call p).2.profiles = r.profiles ++ [p]) ∧
      ∀ e, (r.call p).1 = .error e → (r.call p).2 = r ∧
        (¬ (p.keywords ≠ [] ∨ p.taxIds ≠ []) ∧ e = .unreachableProfile p.name ∨
          (p.keywords ≠ [] ∨ p.taxIds ≠ []) ∧ e = .duplicateProfile p.name) := by
  rw [call, ← isReachable_iff, ← get?_eq_none]
  cases h : r.register p with
  | ok r' =>
    obtain ⟨hreachable, hfresh, rfl⟩ := register_eq_ok.mp h
    exact ⟨iff_of_true rfl ⟨hreachable, hfresh⟩, fun _ => rfl, fun e he => nomatch he⟩
  | error e =>
    refine ⟨iff_of_false (nofun) fun ⟨hreachable, hfresh⟩ => ?_, (nofun), fun e' he' => ⟨rfl, ?_⟩⟩
    · rw [register_eq_ok.mpr ⟨hreachable, hfresh, rfl⟩] at h
      exact nomatch h
    · obtain rfl := Except.error.inj he'
      exact (register_eq_error.mp h).imp_right fun ⟨hreachable, _, he⟩ => ⟨hreachable, he⟩

/-! ### The invariant -/

/-- The names of a registry differ, its profiles can be selected, and nothing in them is empty,
in another form than the canonical one, or listed twice. -/
structure WellFormed (r : Registry) : Prop where
  names : r.profiles.Pairwise fun p q => Text.equalIgnoringAsciiCase p.name q.name = false
  selectable : ∀ p ∈ r.profiles, (∃ k ∈ p.keywords, k ≠ "") ∨ ∃ id ∈ p.taxIds, id ≠ ""
  keywords : ∀ p ∈ r.profiles, ∀ k ∈ p.keywords, k ≠ ""
  taxIds : ∀ p ∈ r.profiles, ∀ id ∈ p.taxIds, TaxId.normalize id = id
  fields : ∀ p ∈ r.profiles, p.mapping.fields.Nodup
  overrides : ∀ p ∈ r.profiles, (p.overrides.map (·.1)).Nodup

theorem wellFormed_empty : empty.WellFormed where
  names := .nil
  selectable := nofun
  keywords := nofun
  taxIds := nofun
  fields := nofun
  overrides := nofun

/-- A profile with a keyword or an identifier has one that is not empty. -/
theorem exists_ne_empty (hp : p.Built) (h : p.isReachable = true) :
    (∃ k ∈ p.keywords, k ≠ "") ∨ ∃ id ∈ p.taxIds, id ≠ "" := by
  rcases isReachable_iff.mp h with h | h
  · obtain ⟨k, hk⟩ := List.exists_mem_of_ne_nil _ h
    exact .inl ⟨k, hk, hp.keyword_ne_empty hk⟩
  · obtain ⟨id, hid⟩ := List.exists_mem_of_ne_nil _ h
    exact .inr ⟨id, hid, (hp.canonical hid).2⟩

/-- Registering a built profile keeps a registry well-formed. -/
theorem WellFormed.register (hr : r.WellFormed) (hp : p.Built) (hm : p.mapping.Built)
    (h : r.register p = .ok r') : r'.WellFormed := by
  obtain ⟨hreachable, hfresh, rfl⟩ := register_eq_ok.mp h
  have hold : ∀ {P : Profile → Prop}, (∀ q ∈ r.profiles, P q) → P p →
      ∀ q ∈ r.profiles ++ [p], P q := by
    intro P hr hp q hq
    rcases List.mem_append.mp hq with hq | hq
    · exact hr q hq
    · exact List.mem_singleton.mp hq ▸ hp
  refine ⟨?_, hold hr.selectable (exists_ne_empty hp hreachable),
    hold hr.keywords fun k => hp.keyword_ne_empty,
    hold hr.taxIds fun id hid => (hp.canonical hid).1,
    hold hr.fields hm.nodup_fields, hold hr.overrides hp.nodup_overrides⟩
  refine List.pairwise_append.mpr ⟨hr.names, List.pairwise_singleton _ _, fun q hq q' hq' => ?_⟩
  rw [List.mem_singleton.mp hq']
  exact get?_eq_none.mp hfresh q hq

/-- A call keeps a registry well-formed, whether it succeeds or not. -/
theorem WellFormed.call (hr : r.WellFormed) (hp : p.Built) (hm : p.mapping.Built) :
    (r.call p).2.WellFormed := by
  rw [Registry.call]
  split
  case h_1 r' h => exact hr.register hp hm h
  case h_2 => exact hr

/-- Calls keep a registry well-formed. -/
theorem WellFormed.afterCalls {calls : List Profile} (hr : r.WellFormed)
    (h : ∀ p ∈ calls, p.Built ∧ p.mapping.Built) : (r.afterCalls calls).WellFormed := by
  induction calls generalizing r with
  | nil => exact hr
  | cons p calls ih =>
    obtain ⟨⟨hp, hm⟩, hrest⟩ := List.forall_mem_cons.mp h
    exact ih (hr.call hp hm) hrest

end InvoiceFields.Registry
