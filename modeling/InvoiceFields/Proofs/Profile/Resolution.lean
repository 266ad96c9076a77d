import InvoiceFields.Profile
import InvoiceFields.Proofs.Answer
import InvoiceFields.Proofs.Extraction.Lookup

/-!
# What the rules and overrides of a profile resolve

Whatever an attempt finds is acceptable for its field and of the kind that the field holds
(`Attempt.accepts_of_value?`, `Attempt.holds_of_value?`), and a mapping has no other values. An
override is acceptable as well, but its kind is its own; since a field has one override at most,
the value that it finds is the one that the profile resolves (`Profile.get?_resolve`).
-/

namespace InvoiceFields

/-- The kind of the values of a field: amounts in a monetary field, texts in any other. -/
def Field.Holds (f : Field) (v : FieldValue) : Prop := v.amount?.isSome = f.isMonetary

theorem Field.holds_amount {f : Field} {d : Decimal} :
    f.Holds (.amount d) ↔ f.isMonetary = true := by
  rw [Holds, FieldValue.amount?, Option.isSome_some, eq_comm]

theorem Field.holds_text {f : Field} {s : String} : f.Holds (.text s) ↔ f.isMonetary = false := by
  rw [Holds, FieldValue.amount?, Option.isSome_none, eq_comm]

variable {doc : Document} {settings : Settings} {f : Field} {v : FieldValue}
variable {P : Field → FieldValue → Prop}

/-- A value is acceptable unless it gives the receiver as the issuer. -/
theorem Settings.accepts_eq_true :
    settings.accepts f v = true ↔
      ∀ id, f = .issuerTaxId → v = .text id → settings.isReceiver id = false := by
  cases v with
  | amount d => simp [accepts]
  | text s => by_cases hf : f = .issuerTaxId <;> simp [accepts, hf]

/-! ### Attempts -/

namespace Attempt

variable {a : Attempt}

/-- An attempt makes an acceptable value of the text that its rule finds. -/
theorem exists_of_value? (h : a.value? doc settings f = some v) :
    ∃ s, f.value? s = some v ∧ settings.accepts f v = true := by
  obtain ⟨s, -, h⟩ := Option.bind_eq_some_iff.mp h
  split at h
  case isTrue => exact ⟨s, Option.filter_eq_some_iff.mp h⟩
  case isFalse => exact nomatch h

theorem accepts_of_value? (h : a.value? doc settings f = some v) :
    settings.accepts f v = true :=
  let ⟨_, _, haccepts⟩ := exists_of_value? h
  haccepts

/-- An attempt finds amounts in monetary fields and texts in others. -/
theorem holds_of_value? (h : a.value? doc settings f = some v) : f.Holds v := by
  obtain ⟨s, hs, -⟩ := exists_of_value? h
  rw [Field.value?] at hs
  split at hs
  case isTrue hf =>
    obtain ⟨d, -, rfl⟩ := Option.map_eq_some_iff.mp hs
    exact Field.holds_amount.mpr hf
  case isFalse hf =>
    cases hs
    exact Field.holds_text.mpr (Bool.eq_false_iff.mpr hf)

end Attempt

/-! ### Mappings -/

/-- What holds of the values that attempts find holds of all values of a mapping. -/
theorem Mapping.forall_resolve {m : Mapping} {skip : Field → Bool}
    (h : ∀ f a v, Attempt.value? doc settings f a = some v → P f v) :
    (m.resolve doc settings skip).Forall P := by
  refine List.foldlRecOn _ _ Extraction.forall_empty fun e he (f, attempts) _ => ?_
  dsimp only
  split
  case h_1 v hv =>
    obtain ⟨a, -, ha⟩ := List.exists_of_findSome?_eq_some hv
    exact he.set (h f a v ha)
  case h_2 => exact he

/-! ### Overrides -/

/-- Only the scan for the issuer can break down. -/
theorem Override.apply_eq_error {o : Override} {fault : Breakdown} :
    o.apply doc settings = .error fault ↔
      o = .issuerTaxIdScan ∧ settings.search.first? doc = .error fault := by
  cases o with
  | issuerTaxIdScan =>
    rw [apply, bind_eq_error]
    simp [pure_ne_error]
  | _ => simp [apply]

namespace Profile

variable {overrides : List (Field × Override)} {e e' : Extraction} {o : Override}

private theorem applyOverrides_cons_eq_ok :
    applyOverrides doc settings ((f, o) :: overrides) e = .ok e' ↔
      ∃ found, o.apply doc settings = .ok found ∧
        applyOverrides doc settings overrides
          (e.put f ((found.filter (settings.accepts f)).or (e.get? f))) = .ok e' := by
  rw [applyOverrides, bind_eq_ok]
  refine exists_congr fun found => and_congr_right fun _ => ?_
  cases found.filter (settings.accepts f) with
  | some v => rfl
  | none => rw [Option.none_or, e.put_get?_self]

/-- What holds before overrides are applied, and of the acceptable values that they find, holds
afterwards. -/
theorem forall_applyOverrides (he : e.Forall P)
    (hfound : ∀ f o v, (f, o) ∈ overrides → o.apply doc settings = .ok (some v) →
      settings.accepts f v = true → P f v)
    (h : applyOverrides doc settings overrides e = .ok e') : e'.Forall P := by
  induction overrides generalizing e with
  | nil =>
    cases h
    exact he
  | cons entry rest ih =>
    obtain ⟨f, o⟩ := entry
    obtain ⟨found, hfound', h⟩ := applyOverrides_cons_eq_ok.mp h
    refine ih (he.put fun v hv => ?_)
      (fun f o v hmem => hfound f o v (List.mem_cons_of_mem _ hmem)) h
    rcases Option.or_eq_some_iff.mp hv with hnew | ⟨-, hold⟩
    · obtain ⟨rfl, haccepts⟩ := Option.filter_eq_some_iff.mp hnew
      exact hfound f o v List.mem_cons_self hfound' haccepts
    · exact he f v hold

/-- Overrides leave the other fields alone. -/
theorem get?_applyOverrides_of_notMem (h : applyOverrides doc settings overrides e = .ok e')
    (hf : f ∉ overrides.map (·.1)) : e'.get? f = e.get? f := by
  induction overrides generalizing e with
  | nil =>
    cases h
    rfl
  | cons entry rest ih =>
    obtain ⟨g, o⟩ := entry
    obtain ⟨found, -, h⟩ := applyOverrides_cons_eq_ok.mp h
    rw [List.map_cons, List.mem_cons, not_or] at hf
    rw [ih h hf.2, Extraction.get?_put, if_neg hf.1]

/-- The only override of a field decides on its value where it finds an acceptable one. -/
theorem get?_applyOverrides (hnodup : (overrides.map (·.1)).Nodup)
    (h : applyOverrides doc settings overrides e = .ok e') (ho : (f, o) ∈ overrides) :
    ∃ found, o.apply doc settings = .ok found ∧
      e'.get? f = (found.filter (settings.accepts f)).or (e.get? f) := by
  induction overrides generalizing e with
  | nil => exact nomatch ho
  | cons entry rest ih =>
    obtain ⟨g, o'⟩ := entry
    obtain ⟨found, hfound, hlater⟩ := applyOverrides_cons_eq_ok.mp h
    obtain ⟨hg, hrest⟩ := List.nodup_cons.mp (List.map_cons ▸ hnodup)
    rcases List.mem_cons.mp ho with heq | ho
    · obtain ⟨rfl, rfl⟩ := Prod.mk.inj heq
      refine ⟨found, hfound, ?_⟩
      -- the overrides that follow are for other fields
      rw [get?_applyOverrides_of_notMem hlater hg, Extraction.get?_put, if_pos rfl]
    · have hne : f ≠ g := fun hfg => hg (List.mem_map.mpr ⟨_, ho, hfg⟩)
      obtain ⟨found', hfound', hget⟩ := ih hrest hlater ho
      refine ⟨found', hfound', ?_⟩
      rw [hget, Extraction.get?_put, if_neg hne]

/-- Overrides break down where the scan for the issuer does. -/
theorem applyOverrides_eq_error {fault : Breakdown} :
    applyOverrides doc settings overrides e = .error fault ↔
      (∃ f, (f, .issuerTaxIdScan) ∈ overrides) ∧ settings.search.first? doc = .error fault := by
  induction overrides generalizing e with
  | nil => simp [applyOverrides]
  | cons entry rest ih =>
    obtain ⟨g, o⟩ := entry
    simp only [applyOverrides, bind_eq_error, ih, Override.apply_eq_error, List.mem_cons]
    constructor
    · rintro (⟨rfl, hsearch⟩ | ⟨found, -, ⟨f, hmem⟩, hsearch⟩)
      · exact ⟨⟨g, .inl rfl⟩, hsearch⟩
      · exact ⟨⟨f, .inr hmem⟩, hsearch⟩
    · rintro ⟨⟨f, heq | hmem⟩, hsearch⟩
      · obtain ⟨-, rfl⟩ := Prod.mk.inj heq
        exact .inl ⟨rfl, hsearch⟩
      · -- an earlier override may break down first, but by the same search
        cases happly : o.apply doc settings with
        | error fault' => exact .inl ⟨(Override.apply_eq_error.mp happly).1, hsearch⟩
        | ok found => exact .inr ⟨found, rfl, ⟨f, hmem⟩, hsearch⟩

/-! ### Profiles -/

variable {p : Profile}

/-- What holds of the acceptable values of a profile's attempts and overrides holds of all its
values. -/
theorem forall_resolve
    (hattempt : ∀ f a v, Attempt.value? doc settings f a = some v → P f v)
    (hfound : ∀ f o v, (f, o) ∈ p.overrides → o.apply doc settings = .ok (some v) →
      settings.accepts f v = true → P f v)
    (h : p.resolve doc settings = .ok e) : e.Forall P :=
  forall_applyOverrides (Mapping.forall_resolve hattempt) hfound h

/-- A profile resolves a field to the acceptable value that its override finds. -/
theorem get?_resolve (hnodup : (p.overrides.map (·.1)).Nodup) (h : p.resolve doc settings = .ok e)
    (ho : (f, o) ∈ p.overrides) (hfound : o.apply doc settings = .ok (some v))
    (haccepts : settings.accepts f v = true) : e.get? f = some v := by
  obtain ⟨found, hfound', hget⟩ := get?_applyOverrides hnodup h ho
  obtain rfl : found = some v := Except.ok.inj (hfound'.symm.trans hfound)
  rw [hget, Option.filter_some, if_pos haccepts, Option.some_or]

/-- A profile breaks down where the scan for the issuer does, if it has one. -/
theorem resolve_eq_error {fault : Breakdown} :
    p.resolve doc settings = .error fault ↔
      (∃ f, (f, .issuerTaxIdScan) ∈ p.overrides) ∧ settings.search.first? doc = .error fault :=
  applyOverrides_eq_error

end Profile

end InvoiceFields
