import InvoiceFields.Proofs.Registry.Acceptance
import Mathlib.Data.List.Forall2

/-!
# Which rules make a registry

Rules list the records of profiles. They make a registry when every record passes in the order of
the list: its overrides can be resolved, something can select it, and its name is not taken. The
first record that does not pass decides what is reported, and in a registry the profiles stand in
the order of their records (`accepts_and_loads`).
-/

namespace InvoiceFields

namespace ProfileRecord

variable {record : ProfileRecord} {p p' : Profile} {entry : String × String} {e : ConfigError}

/-- The name of the profile, without blanks around it. -/
def title (record : ProfileRecord) : String := Text.trim (record.name.getD "")

/-- The names of overrides by the keys of fields. -/
def overrideNames (record : ProfileRecord) : List (String × String) := record.overrides.getD []

/-! ### Overrides -/

/-- The key names a field and the name an override. -/
def Resolvable (entry : String × String) : Prop :=
  (∃ f, Field.ofKey? entry.1 = some f) ∧ ∃ o, Override.ofName? entry.2 = some o

/-- What is said of an override whose key names no field, or whose name no override. -/
inductive Unresolvable (profile : String) : String × String → ConfigError → Prop
  | key {key name : String} (hkey : Field.ofKey? key = none) :
      Unresolvable profile (key, name) (.unknownField key)
  | name {key name : String} {f : Field} (hkey : Field.ofKey? key = some f)
      (hname : Override.ofName? name = none) :
      Unresolvable profile (key, name) (.unknownOverride profile f.key name)

/-- Adds an override to a profile. -/
def addOverride (p : Profile) (entry : String × String) : Except ConfigError Profile := do
  p.withOverride (← Field.ofKey entry.1) entry.2

theorem addOverrides_eq_foldlM :
    ∀ (entries : List (String × String)) (p : Profile),
      addOverrides entries p = entries.foldlM addOverride p
  | [], _ => rfl
  | (key, name) :: rest, p => by
    rw [addOverrides, List.foldlM_cons, addOverride]
    cases Field.ofKey key with
    | error e => rfl
    | ok f =>
      cases h : p.withOverride f name with
      | error e => simp only [bind, Except.bind, h]
      | ok p' =>
        simp only [bind, Except.bind, h]
        exact addOverrides_eq_foldlM rest p'

theorem ofKey_eq_ok {key : String} {f : Field} :
    Field.ofKey key = .ok f ↔ Field.ofKey? key = some f := by
  rw [Field.ofKey]
  cases Field.ofKey? key <;> simp

theorem addOverride_eq_ok :
    addOverride p entry = .ok p' ↔ ∃ f o, Field.ofKey? entry.1 = some f ∧
      Override.ofName? entry.2 = some o ∧
      p' = { p with overrides := p.overrides.filter (·.1 != f) ++ [(f, o)] } := by
  simp only [addOverride, bind_eq_ok, ofKey_eq_ok, Profile.withOverride_eq_ok, exists_and_left]

theorem exists_addOverride_eq_ok : (∃ p', addOverride p entry = .ok p') ↔ Resolvable entry := by
  simp only [addOverride_eq_ok, Resolvable]
  constructor
  · rintro ⟨-, f, o, hf, ho, -⟩
    exact ⟨⟨f, hf⟩, o, ho⟩
  · rintro ⟨⟨f, hf⟩, o, ho⟩
    exact ⟨_, f, o, hf, ho, rfl⟩

theorem addOverride_eq_error : addOverride p entry = .error e ↔ Unresolvable p.name entry e := by
  obtain ⟨key, name⟩ := entry
  rw [addOverride, Field.ofKey]
  cases hkey : Field.ofKey? key with
  | none =>
    constructor
    · rintro ⟨⟩
      exact .key hkey
    · rintro (_ | ⟨hkey', _⟩)
      · rfl
      · rw [hkey] at hkey'
        cases hkey'
  | some f =>
    cases hname : Override.ofName? name with
    | none =>
      have hfault : p.withOverride f name = .error (.unknownOverride p.name f.key name) := by
        rw [Profile.withOverride, hname]
      simp only [bind, Except.bind, hfault, Except.error.injEq]
      constructor
      · rintro rfl
        exact .name hkey hname
      · rintro (hkey' | ⟨hkey', _⟩)
        · rw [hkey] at hkey'
          cases hkey'
        · rw [hkey] at hkey'
          rw [Option.some.inj hkey']
    | some o =>
      have hadded : p.withOverride f name =
          .ok { p with overrides := p.overrides.filter (·.1 != f) ++ [(f, o)] } := by
        rw [Profile.withOverride, hname]
      simp only [bind, Except.bind, hadded]
      refine iff_of_false (fun h => by cases h) ?_
      rintro (hkey' | ⟨_, hname'⟩)
      · rw [hkey] at hkey'
        cases hkey'
      · rw [hname] at hname'
        cases hname'

/-- Adding overrides changes nothing else in a profile. -/
theorem eq_of_foldlM_addOverride {entries : List (String × String)}
    (h : entries.foldlM addOverride p = .ok p') : p' = { p with overrides := p'.overrides } := by
  induction entries generalizing p with
  | nil =>
    cases h
    rfl
  | cons entry rest ih =>
    rw [List.foldlM_cons] at h
    obtain ⟨q, hq, h⟩ := bind_eq_ok.mp h
    obtain ⟨f, o, -, -, rfl⟩ := addOverride_eq_ok.mp hq
    have hrest := ih h
    exact hrest

theorem exists_foldlM_addOverride {entries : List (String × String)} :
    (∃ p', entries.foldlM addOverride p = .ok p') ↔ ∀ entry ∈ entries, Resolvable entry := by
  have hstep : ∀ (p : Profile) (entry : String × String),
      (∃ p', addOverride p entry = .ok p') ↔ Resolvable entry := fun _ _ => exists_addOverride_eq_ok
  exact exists_foldlM_eq_ok hstep

/-! ### Records -/

/-- Something can select the profile: a keyword or an identifier is left when it is cleaned. -/
def Reachable (record : ProfileRecord) : Prop :=
  (∃ k ∈ record.keywords.getD [], Profile.cleanKeyword k ≠ "") ∨
    ∃ id ∈ record.taxIds.getD [], TaxId.normalize id ≠ ""

/-- The profile before its overrides are added. -/
def declared (record : ProfileRecord) : Profile :=
  ((((Profile.named record.title).withKeywords (record.keywords.getD [])).withTaxIds
    (record.taxIds.getD [])).withRate record.rate.join).withMapping (record.fields.getD .empty)

theorem profile_eq_foldlM (record : ProfileRecord) :
    record.profile = record.overrideNames.foldlM addOverride record.declared :=
  addOverrides_eq_foldlM _ _

theorem isReachable_declared : record.declared.isReachable = true ↔ record.Reachable := by
  have hfilter : ∀ {α : Type} {clean : α → String} {xs : List α},
      ([] ++ (xs.map clean).filter (!·.isEmpty) ≠ []) ↔ ∃ x ∈ xs, clean x ≠ "" := by
    intro α clean xs
    simp
  rw [Registry.isReachable_iff, Reachable]
  exact or_congr hfilter hfilter

/-- A profile has the name and the mapping of its record, and can be selected where the record
says so. -/
theorem of_profile_eq_ok (h : record.profile = .ok p) :
    p.name = record.title ∧ p.mapping = record.fields.getD .empty ∧
      (p.isReachable = true ↔ record.Reachable) := by
  rw [profile_eq_foldlM] at h
  have hframe := eq_of_foldlM_addOverride h
  rw [← isReachable_declared, hframe]
  exact ⟨rfl, rfl, Iff.rfl⟩

theorem exists_profile_eq_ok :
    (∃ p, record.profile = .ok p) ↔ ∀ entry ∈ record.overrideNames, Resolvable entry := by
  rw [profile_eq_foldlM]
  exact exists_foldlM_addOverride

/-- The first override that cannot be resolved decides what is said of a record without profile. -/
theorem profile_eq_error :
    record.profile = .error e ↔ ∃ before entry after,
      record.overrideNames = before ++ entry :: after ∧ (∀ entry ∈ before, Resolvable entry) ∧
        Unresolvable record.title entry e := by
  have hname : ∀ {entries : List (String × String)} {p : Profile},
      entries.foldlM addOverride record.declared = .ok p → p.name = record.title := by
    intro entries p h
    rw [eq_of_foldlM_addOverride h]
    rfl
  rw [profile_eq_foldlM, foldlM_eq_error]
  constructor
  · rintro ⟨before, entry, after, p, hsplit, hbefore, hentry⟩
    rw [addOverride_eq_error, hname hbefore] at hentry
    exact ⟨before, entry, after, hsplit, exists_foldlM_addOverride.mp ⟨p, hbefore⟩, hentry⟩
  · rintro ⟨before, entry, after, hsplit, hbefore, hentry⟩
    obtain ⟨p, hp⟩ := exists_foldlM_addOverride (p := record.declared).mpr hbefore
    rw [← hname hp] at hentry
    exact ⟨before, entry, after, p, hsplit, hp, addOverride_eq_error.mpr hentry⟩

/-- A record passes where the names `taken` stand in a registry. -/
structure Passes (taken : List String) (record : ProfileRecord) : Prop where
  resolvable : ∀ entry ∈ record.overrideNames, Resolvable entry
  reachable : record.Reachable
  free : ∀ name ∈ taken, Text.equalIgnoringAsciiCase name record.title = false

/-- What is said of a record that does not pass: its overrides are looked at first, then whether
it can be selected, and then its name. -/
inductive Offends (taken : List String) (record : ProfileRecord) : ConfigError → Prop
  | override {before after : List (String × String)} {entry : String × String} {e : ConfigError}
      (split : record.overrideNames = before ++ entry :: after)
      (resolvable : ∀ entry ∈ before, Resolvable entry)
      (fault : Unresolvable record.title entry e) : Offends taken record e
  | unreachable (resolvable : ∀ entry ∈ record.overrideNames, Resolvable entry)
      (unreachable : ¬ record.Reachable) :
      Offends taken record (.unreachableProfile record.title)
  | duplicate {name : String} (resolvable : ∀ entry ∈ record.overrideNames, Resolvable entry)
      (reachable : record.Reachable) (isTaken : name ∈ taken)
      (same : Text.equalIgnoringAsciiCase name record.title = true) :
      Offends taken record (.duplicateProfile record.title)

end ProfileRecord

namespace Registry

open ProfileRecord (Passes Offends title)

variable {r r' : Registry} {records : List ProfileRecord} {record : ProfileRecord} {e : ConfigError}

/-- The names of the profiles. -/
def names (r : Registry) : List String := r.profiles.map (·.name)

theorem get?_eq_none_iff_names {name : String} :
    r.get? name = none ↔ ∀ taken ∈ r.names, Text.equalIgnoringAsciiCase taken name = false := by
  rw [get?_eq_none, names, List.forall_mem_map]

/-- Builds the profile of a record and registers it. -/
def registerRecord (r : Registry) (record : ProfileRecord) : Except ConfigError Registry := do
  r.register (← record.profile)

theorem registerAll_eq_foldlM :
    ∀ (records : List ProfileRecord) (r : Registry),
      registerAll records r = records.foldlM registerRecord r
  | [], _ => rfl
  | record :: rest, r => by
    rw [registerAll, List.foldlM_cons, registerRecord]
    cases hprofile : record.profile with
    | error e => rfl
    | ok p =>
      cases h : r.register p with
      | error e => simp only [bind, Except.bind, h]
      | ok r' =>
        simp only [bind, Except.bind, h]
        exact registerAll_eq_foldlM rest r'

theorem exists_registerRecord_eq_ok :
    (∃ r', registerRecord r record = .ok r') ↔ Passes r.names record := by
  simp only [registerRecord, bind_eq_ok, register_eq_ok]
  constructor
  · rintro ⟨r', p, hp, hreachable, hfree, -⟩
    obtain ⟨hname, -, hreach⟩ := ProfileRecord.of_profile_eq_ok hp
    rw [get?_eq_none_iff_names, hname] at hfree
    exact ⟨ProfileRecord.exists_profile_eq_ok.mp ⟨p, hp⟩, hreach.mp hreachable, hfree⟩
  · rintro ⟨hresolvable, hreachable, hfree⟩
    obtain ⟨p, hp⟩ := ProfileRecord.exists_profile_eq_ok.mpr hresolvable
    obtain ⟨hname, -, hreach⟩ := ProfileRecord.of_profile_eq_ok hp
    rw [← hname] at hfree
    exact ⟨_, p, hp, hreach.mpr hreachable, get?_eq_none_iff_names.mpr hfree, rfl⟩

/-- A name is taken when a profile has it, whatever the case of its ASCII letters. -/
theorem get?_ne_none_iff_names {name : String} :
    r.get? name ≠ none ↔ ∃ taken ∈ r.names, Text.equalIgnoringAsciiCase taken name = true := by
  rw [ne_eq, get?_eq_none_iff_names]
  simp only [Classical.not_forall, Bool.not_eq_false, exists_prop]

theorem registerRecord_eq_error :
    registerRecord r record = .error e ↔ Offends r.names record e := by
  rw [registerRecord, bind_eq_error, ProfileRecord.profile_eq_error]
  constructor
  · rintro (⟨before, entry, after, hsplit, hbefore, hentry⟩ | ⟨p, hp, h⟩)
    · exact .override hsplit hbefore hentry
    · have hresolvable := ProfileRecord.exists_profile_eq_ok.mp ⟨p, hp⟩
      obtain ⟨hname, -, hreach⟩ := ProfileRecord.of_profile_eq_ok hp
      rw [register_eq_error, hname, hreach, get?_ne_none_iff_names] at h
      rcases h with ⟨hunreachable, rfl⟩ | ⟨hreachable, ⟨name, hmem, hsame⟩, rfl⟩
      · exact .unreachable hresolvable hunreachable
      · exact .duplicate hresolvable hreachable hmem hsame
  · rintro (⟨hsplit, hbefore, hentry⟩ | ⟨hresolvable, hunreachable⟩ |
      ⟨hresolvable, hreachable, hmem, hsame⟩)
    · exact .inl ⟨_, _, _, hsplit, hbefore, hentry⟩
    · obtain ⟨p, hp⟩ := ProfileRecord.exists_profile_eq_ok.mpr hresolvable
      obtain ⟨hname, -, hreach⟩ := ProfileRecord.of_profile_eq_ok hp
      refine .inr ⟨p, hp, ?_⟩
      rw [register_eq_error, hname, hreach]
      exact .inl ⟨hunreachable, rfl⟩
    · obtain ⟨p, hp⟩ := ProfileRecord.exists_profile_eq_ok.mpr hresolvable
      obtain ⟨hname, -, hreach⟩ := ProfileRecord.of_profile_eq_ok hp
      refine .inr ⟨p, hp, ?_⟩
      rw [register_eq_error, hname, hreach, get?_ne_none_iff_names]
      exact .inr ⟨hreachable, ⟨_, hmem, hsame⟩, rfl⟩

/-! ### Lists of records -/

theorem names_of_registerRecord (h : registerRecord r record = .ok r') :
    r'.names = r.names ++ [title record] := by
  obtain ⟨p, hp, h⟩ := bind_eq_ok.mp h
  obtain ⟨-, -, rfl⟩ := register_eq_ok.mp h
  rw [← (ProfileRecord.of_profile_eq_ok hp).1, names, names, List.map_append, List.map_singleton]

/-- The names of the records are added in their order. -/
theorem names_of_foldlM (h : records.foldlM registerRecord r = .ok r') :
    r'.names = r.names ++ records.map title := by
  induction records generalizing r with
  | nil =>
    cases h
    rw [List.map_nil, List.append_nil]
  | cons record rest ih =>
    rw [List.foldlM_cons] at h
    obtain ⟨q, hq, h⟩ := bind_eq_ok.mp h
    rw [ih h, names_of_registerRecord hq, List.append_assoc, List.map_cons, List.singleton_append]

/-- Every record passes behind the names that stand before it. -/
def AllPass (taken : List String) (records : List ProfileRecord) : Prop :=
  ∀ before record after, records = before ++ record :: after →
    Passes (taken ++ before.map title) record

theorem allPass_cons {taken : List String} :
    AllPass taken (record :: records) ↔
      Passes taken record ∧ AllPass (taken ++ [title record]) records := by
  constructor
  · intro h
    refine ⟨by simpa using h [] record records rfl, fun before other after hsplit => ?_⟩
    have hother := h (record :: before) other after (by rw [hsplit, List.cons_append])
    rwa [List.map_cons, List.append_cons] at hother
  · rintro ⟨hrecord, hrest⟩ before other after hsplit
    rcases List.cons_eq_append_iff.mp hsplit with ⟨rfl, h⟩ | ⟨before, rfl, rfl⟩
    · obtain ⟨rfl, rfl⟩ := List.cons_eq_cons.mp h
      rwa [List.map_nil, List.append_nil]
    · rw [List.map_cons, List.append_cons]
      exact hrest before other after rfl

/-- Records are registered when all of them pass. -/
theorem exists_foldlM_registerRecord :
    (∃ r', records.foldlM registerRecord r = .ok r') ↔ AllPass r.names records := by
  induction records generalizing r with
  | nil => exact iff_of_true ⟨r, rfl⟩ fun before record after h => by simp at h
  | cons record rest ih =>
    rw [allPass_cons, ← exists_registerRecord_eq_ok]
    simp only [List.foldlM_cons, bind_eq_ok]
    constructor
    · rintro ⟨r', q, hq, h⟩
      exact ⟨⟨q, hq⟩, names_of_registerRecord hq ▸ ih.mp ⟨r', h⟩⟩
    · rintro ⟨⟨q, hq⟩, hrest⟩
      obtain ⟨r', h⟩ := ih.mpr (names_of_registerRecord hq ▸ hrest)
      exact ⟨r', q, hq, h⟩

/-- Each profile is the one of its record. -/
theorem forall₂_of_foldlM (h : records.foldlM registerRecord r = .ok r') :
    ∃ added, r'.profiles = r.profiles ++ added ∧
      List.Forall₂ (fun record p => record.profile = .ok p) records added := by
  induction records generalizing r with
  | nil =>
    cases h
    exact ⟨[], (List.append_nil _).symm, .nil⟩
  | cons record rest ih =>
    rw [List.foldlM_cons] at h
    obtain ⟨q, hq, h⟩ := bind_eq_ok.mp h
    obtain ⟨p, hp, hregister⟩ := bind_eq_ok.mp hq
    obtain ⟨-, -, rfl⟩ := register_eq_ok.mp hregister
    obtain ⟨added, hadded, hrest⟩ := ih h
    exact ⟨p :: added, by rw [hadded, List.append_assoc, List.singleton_append], .cons hp hrest⟩

/-- Registering records whose mappings are built keeps a registry well-formed. -/
theorem WellFormed.foldlM (hr : r.WellFormed)
    (hfields : ∀ record ∈ records, ∀ m, record.fields = some m → m.Built)
    (h : records.foldlM registerRecord r = .ok r') : r'.WellFormed := by
  induction records generalizing r with
  | nil =>
    cases h
    exact hr
  | cons record rest ih =>
    obtain ⟨hfirst, hrest⟩ := List.forall_mem_cons.mp hfields
    rw [List.foldlM_cons] at h
    obtain ⟨q, hq, h⟩ := bind_eq_ok.mp h
    obtain ⟨p, hp, hregister⟩ := bind_eq_ok.mp hq
    refine ih (hr.register (ProfileRecord.built_profile hp) ?_ hregister) hrest h
    rw [(ProfileRecord.of_profile_eq_ok hp).2.1]
    cases hm : record.fields with
    | none => exact .empty
    | some m => exact hfirst m hm

/-! ### Rules in JSON -/

/-- Mappings in the record of a profile are built. -/
theorem built_of_ofTree {tree : Json.Tree} (h : ProfileRecord.ofTree tree = .ok record) :
    ∀ m, record.fields = some m → m.Built := by
  rw [ProfileRecord.ofTree] at h
  obtain ⟨record', hrecord, h⟩ := bind_eq_ok.mp h
  have hbuilt : ∀ m, record'.fields = some m → m.Built := by
    refine Json.Tree.record_induction (P := fun r => ∀ m, r.fields = some m → m.Built)
      (fun slot hslot s t _ s' hs hfill => ?_) (nofun) hrecord
    simp only [ProfileRecord.slots, List.mem_cons, List.not_mem_nil, or_false] at hslot
    rcases hslot with rfl | rfl | rfl | rfl | rfl | rfl
    case inr.inr.inr.inr.inl =>
      obtain ⟨m, hm, rfl⟩ := map_eq_ok.mp hfill
      rintro m' ⟨⟩
      exact Mapping.built_of_ofTree hm
    all_goals
      obtain ⟨x, -, rfl⟩ := map_eq_ok.mp hfill
      exact hs
  split at h
  case isTrue =>
    obtain rfl := pure_eq_ok.mp h
    exact hbuilt
  case isFalse => exact nomatch h

/-- The registry that rules in JSON make is well-formed. -/
theorem wellFormed_of_ofText {text : String} (h : ofText text = .ok r) : r.WellFormed := by
  rw [ofText] at h
  split at h
  case h_1 => cases h
  case h_2 records hrecords =>
    split at h
    case h_1 => cases h
    case h_2 q hq =>
      cases h
      obtain ⟨records?, hread, rfl⟩ := map_eq_ok.mp (Json.decode_eq_ok.mp hrecords).1
      rw [registerAll_eq_foldlM] at hq
      refine wellFormed_empty.foldlM (fun record hrecord => ?_) hq
      have hbuilt : ∀ records, records? = some records → ∀ record ∈ records,
          ∀ m, record.fields = some m → m.Built := by
        refine Json.Tree.record_induction (P := fun records? => ∀ records, records? = some records →
          ∀ record ∈ records, ∀ m, record.fields = some m → m.Built)
          (fun slot hslot s t _ s' hs hfill => ?_) (fun _ h => by cases h) hread
        obtain rfl := List.mem_singleton.mp hslot
        obtain ⟨records, hlist, rfl⟩ := map_eq_ok.mp hfill
        rintro records' ⟨⟩ record hrecord
        obtain ⟨tree, -, htree⟩ := Json.Tree.exists_of_mem_list hlist hrecord
        exact built_of_ofTree htree
      cases hsome : records? with
      | none =>
        rw [hsome] at hrecord
        cases hrecord
      | some records =>
        rw [hsome] at hrecord
        exact hbuilt records hsome record hrecord

/-! ### The main statement -/

/-- **Acceptance.** A call takes exactly the profiles that can be selected and whose name is free,
up to the case of ASCII letters; it adds them at the end and otherwise leaves the registry alone.
Every registry that calls lead to is well-formed. Rules make a registry exactly when all their
records pass in order; the first that does not decides the fault, and the profiles of a registry
stand in the order of the records, under their names without blanks around them. -/
theorem accepts_and_loads :
    (∀ calls : List Profile, (∀ p ∈ calls, p.Built ∧ p.mapping.Built) →
      (empty.afterCalls calls).WellFormed ∧
      ∀ p, (((empty.afterCalls calls).call p).1 = .ok () ↔ (p.keywords ≠ [] ∨ p.taxIds ≠ []) ∧
            ∀ q ∈ (empty.afterCalls calls).profiles,
              Text.equalIgnoringAsciiCase q.name p.name = false) ∧
        (((empty.afterCalls calls).call p).1 = .ok () →
          ((empty.afterCalls calls).call p).2.profiles =
            (empty.afterCalls calls).profiles ++ [p]) ∧
        ∀ e, ((empty.afterCalls calls).call p).1 = .error e →
          ((empty.afterCalls calls).call p).2 = empty.afterCalls calls ∧
          (¬ (p.keywords ≠ [] ∨ p.taxIds ≠ []) ∧ e = .unreachableProfile p.name ∨
            (p.keywords ≠ [] ∨ p.taxIds ≠ []) ∧ e = .duplicateProfile p.name)) ∧
    ∀ records : List ProfileRecord,
      (∀ record ∈ records, ∀ m, record.fields = some m → m.Built) →
      ((∃ r, registerAll records empty = .ok r) ↔ AllPass [] records) ∧
      (∀ e, registerAll records empty = .error e ↔ ∃ before record after,
        records = before ++ record :: after ∧ AllPass [] before ∧
          Offends (before.map title) record e) ∧
      ∀ r, registerAll records empty = .ok r → r.WellFormed ∧ r.names = records.map title ∧
        List.Forall₂ (fun record p => record.profile = .ok p) records r.profiles := by
  refine ⟨fun calls hcalls => ⟨wellFormed_empty.afterCalls hcalls, fun p => call_spec _ p⟩,
    fun records hfields => ?_⟩
  simp only [registerAll_eq_foldlM]
  refine ⟨exists_foldlM_registerRecord, fun e => ?_, fun r h => ?_⟩
  · rw [foldlM_eq_error]
    refine exists_congr fun before => exists_congr fun record => exists_congr fun after => ?_
    constructor
    · rintro ⟨r, hsplit, hbefore, hrecord⟩
      have hnames : r.names = before.map title := names_of_foldlM hbefore
      exact ⟨hsplit, exists_foldlM_registerRecord.mp ⟨r, hbefore⟩,
        hnames ▸ registerRecord_eq_error.mp hrecord⟩
    · rintro ⟨hsplit, hpass, hoffends⟩
      obtain ⟨r, hbefore⟩ := exists_foldlM_registerRecord (r := empty).mpr hpass
      have hnames : r.names = before.map title := names_of_foldlM hbefore
      exact ⟨r, hsplit, hbefore, registerRecord_eq_error.mpr (hnames ▸ hoffends)⟩
  · obtain ⟨added, hadded, hrecords⟩ := forall₂_of_foldlM h
    have hprofiles : r.profiles = added := hadded
    exact ⟨wellFormed_empty.foldlM hfields h, names_of_foldlM h, hprofiles ▸ hrecords⟩

/-- A record with a name and a keyword. -/
private def keywordRecord (name keyword : String) : ProfileRecord :=
  { ProfileRecord.empty with name := some name, keywords := some [keyword] }

private theorem reachable_keywordRecord {name keyword : String}
    (h : Profile.cleanKeyword keyword ≠ "") : (keywordRecord name keyword).Reachable :=
  .inl ⟨keyword, List.mem_cons_self, h⟩

/-- A profile with a name and a keyword. -/
private def keywordProfile : Profile := (Profile.named "norte").withKeywords ["Norte"]

/-- A name in other letters is taken, in calls and in rules. -/
theorem accepts_and_loads_norte :
    (empty.afterCalls [keywordProfile]).WellFormed ∧
      ((empty.afterCalls [keywordProfile]).call
        ((Profile.named "NORTE").withTaxIds ["A58818501"])).1 ≠ .ok () ∧
      registerAll [keywordRecord "norte" "norte", keywordRecord " NORTE " "sur"] empty =
        .error (.duplicateProfile "NORTE") := by
  obtain ⟨hcalls, hloads⟩ := accepts_and_loads
  have hbuilt : ∀ p ∈ [keywordProfile], p.Built ∧ p.mapping.Built := by
    intro p hp
    rw [List.mem_singleton.mp hp]
    exact ⟨(Profile.Built.named "norte").withKeywords _, .empty⟩
  obtain ⟨hwellFormed, haccepts⟩ := hcalls [keywordProfile] hbuilt
  refine ⟨hwellFormed, fun h => ?_, ?_⟩
  · have hregistered : keywordProfile ∈ (empty.afterCalls [keywordProfile]).profiles := by
      decide +kernel
    have hsame : Text.equalIgnoringAsciiCase "norte" "NORTE" = true := by decide +kernel
    have hfree := ((haccepts _).1.mp h).2 _ hregistered
    exact absurd (hsame.symm.trans hfree) (by decide)
  · obtain ⟨-, herror, -⟩ := hloads [keywordRecord "norte" "norte", keywordRecord " NORTE " "sur"]
      (by simp [keywordRecord, ProfileRecord.empty])
    have htitle : title (keywordRecord " NORTE " "sur") = "NORTE" := by decide +kernel
    rw [← htitle]
    refine (herror _).mpr ⟨[keywordRecord "norte" "norte"], _, [], rfl, ?_, ?_⟩
    · have hreachable : (keywordRecord "norte" "norte").Reachable :=
        reachable_keywordRecord (by decide +kernel)
      exact allPass_cons.mpr ⟨⟨nofun, hreachable, nofun⟩, fun before record after h => by simp at h⟩
    · have hreachable : (keywordRecord " NORTE " "sur").Reachable :=
        reachable_keywordRecord (by decide +kernel)
      have htaken : Text.equalIgnoringAsciiCase (title (keywordRecord "norte" "norte"))
          (title (keywordRecord " NORTE " "sur")) = true := by decide +kernel
      exact .duplicate (nofun) hreachable List.mem_cons_self htaken

end Registry

end InvoiceFields
