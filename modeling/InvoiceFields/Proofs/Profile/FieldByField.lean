import InvoiceFields.Proofs.Profile.Reordering

/-!
# Profiles resolve field by field

`Profile.Resolves` says what a profile has for one field: what its override finds, or else what the
attempts for the field find. A profile that calls make or JSON holds resolves exactly that for every
field (`Profile.resolve_eq_ok_iff`), so profiles of the same rules resolve the same
(`Profile.Alike.resolve_eq`), in whatever order the rules of different fields were declared.
-/

namespace InvoiceFields

open Json (Tree)

variable {doc : Document} {settings : Settings} {f : Field}

namespace Profile

variable {p q : Profile} {e : Extraction} {v? v?' : Option FieldValue}

/-! ### Declared profiles -/

/-- The profiles that calls make or rules in JSON hold. -/
def Declared (p : Profile) : Prop :=
  (p.Built ∧ p.mapping.Built) ∨ ∃ text r, Registry.ofText text = .ok r ∧ p ∈ r.profiles

theorem Declared.built (h : p.Declared) : p.Built := by
  rcases h with ⟨hbuilt, -⟩ | ⟨text, r, hr, hp⟩
  · exact hbuilt
  · exact (Registry.built_of_ofText hr).profile hp

theorem Declared.nodup_fields (h : p.Declared) : p.mapping.fields.Nodup := by
  rcases h with ⟨-, hmapping⟩ | ⟨text, r, hr, hp⟩
  · exact hmapping.nodup_fields
  · exact (Registry.wellFormed_of_ofText hr).fields p hp

theorem Declared.mem_overrides (h : p.Declared) {o : Override} :
    (f, o) ∈ p.overrides ↔ p.override? f = some o :=
  mem_iff_lookup_eq_some h.built.nodup_overrides

/-- Declaring overrides leads from a declared profile to declared ones. -/
theorem Built.withOverrides {names : List (Field × String)} (hp : p.Built)
    (h : p.withOverrides names = .ok q) : q.Built := by
  induction names generalizing p with
  | nil =>
    cases h
    exact hp
  | cons d names ih =>
    rw [Profile.withOverrides, List.foldlM_cons] at h
    obtain ⟨p₁, hstep, hrest⟩ := bind_eq_ok.mp h
    exact ih (hp.withOverride hstep) hrest

/-! ### One field -/

/-- What a profile has for a field. With an override, it is the value that the override finds, and
nothing where it finds none or the receiver's identifier as the issuer's; without one, it is what
the first of the attempts finds that finds anything. -/
inductive Resolves (p : Profile) (doc : Document) (settings : Settings) (f : Field) :
    Option FieldValue → Prop
  | found {o : Override} {v : FieldValue} (declared : (f, o) ∈ p.overrides)
      (applied : o.apply doc settings = .ok (some v))
      (foreign : ∀ id, f = .issuerTaxId → v = .text id → settings.isReceiver id = false) :
      Resolves p doc settings f (some v)
  | receiver {o : Override} {id : String} (declared : (f, o) ∈ p.overrides)
      (applied : o.apply doc settings = .ok (some (.text id))) (issuer : f = .issuerTaxId)
      (own : settings.isReceiver id = true) : Resolves p doc settings f none
  | nothing {o : Override} (declared : (f, o) ∈ p.overrides)
      (applied : o.apply doc settings = .ok none) : Resolves p doc settings f none
  | attempts (declarative : ∀ o, (f, o) ∉ p.overrides) :
      Resolves p doc settings f
        (Attempt.firstValue? doc settings f ((p.mapping.attempts? f).getD []))

/-- With an override, a profile has the value that it finds, if it is acceptable. -/
theorem resolves_iff_of_mem {o : Override} (h : p.Declared) (ho : (f, o) ∈ p.overrides) :
    p.Resolves doc settings f v? ↔
      ∃ found, o.apply doc settings = .ok found ∧ found.filter (settings.accepts f) = v? := by
  -- no other override stands for the field
  have hsame : ∀ {o'}, (f, o') ∈ p.overrides → o' = o := fun ho' =>
    Option.some.inj ((h.mem_overrides.mp ho').symm.trans (h.mem_overrides.mp ho))
  constructor
  · intro hresolves
    cases hresolves with
    | found declared applied foreign =>
      obtain rfl := hsame declared
      refine ⟨_, applied, ?_⟩
      rw [Option.filter_some, if_pos (Settings.accepts_eq_true.mpr foreign)]
    | @receiver _ id declared applied issuer own =>
      obtain rfl := hsame declared
      have hrejects : ¬ settings.accepts f (.text id) = true := fun haccepts => by
        rw [Settings.accepts_eq_true.mp haccepts id issuer rfl] at own
        exact nomatch own
      exact ⟨_, applied, by rw [Option.filter_some, if_neg hrejects]⟩
    | nothing declared applied =>
      obtain rfl := hsame declared
      exact ⟨_, applied, rfl⟩
    | attempts declarative => exact absurd ho (declarative o)
  · rintro ⟨found, happlied, rfl⟩
    cases found with
    | none => exact .nothing ho happlied
    | some v =>
      by_cases haccepts : settings.accepts f v = true
      · rw [Option.filter_some, if_pos haccepts]
        exact .found ho happlied (Settings.accepts_eq_true.mp haccepts)
      · rw [Option.filter_some, if_neg haccepts]
        rw [Settings.accepts_eq_true] at haccepts
        push Not at haccepts
        obtain ⟨id, hissuer, rfl, hown⟩ := haccepts
        exact .receiver ho happlied hissuer (Bool.eq_true_of_not_eq_false hown)

theorem resolves_iff_of_notMem (h : ∀ o, (f, o) ∉ p.overrides) :
    p.Resolves doc settings f v? ↔
      Attempt.firstValue? doc settings f ((p.mapping.attempts? f).getD []) = v? := by
  constructor
  · intro hresolves
    cases hresolves with
    | attempts => rfl
    | found declared | receiver declared | nothing declared => exact absurd declared (h _)
  · rintro rfl
    exact .attempts h

/-- A profile has one thing for a field. -/
theorem Resolves.unique (h : p.Declared) (hv : p.Resolves doc settings f v?)
    (hv' : p.Resolves doc settings f v?') : v? = v?' := by
  by_cases hover : ∃ o, (f, o) ∈ p.overrides
  · obtain ⟨o, ho⟩ := hover
    obtain ⟨found, hfound, rfl⟩ := (resolves_iff_of_mem h ho).mp hv
    obtain ⟨found', hfound', rfl⟩ := (resolves_iff_of_mem h ho).mp hv'
    rw [Except.ok.inj (hfound.symm.trans hfound')]
  · have hnone : ∀ o, (f, o) ∉ p.overrides := fun o ho => hover ⟨o, ho⟩
    exact ((resolves_iff_of_notMem hnone).mp hv).symm.trans ((resolves_iff_of_notMem hnone).mp hv')

/-! ### All fields -/

theorem isOverridden_eq_true : p.isOverridden f = true ↔ ∃ o, (f, o) ∈ p.overrides := by
  rw [isOverridden, List.any_eq_true]
  constructor
  · rintro ⟨⟨g, o⟩, hmem, hg⟩
    obtain rfl := beq_iff_eq.mp hg
    exact ⟨o, hmem⟩
  · rintro ⟨o, hmem⟩
    exact ⟨(f, o), hmem, beq_self_eq_true f⟩

/-- What a profile has for each field is what it resolves. -/
theorem resolves_of_resolve (h : p.Declared) (he : p.resolve doc settings = .ok e) (f : Field) :
    p.Resolves doc settings f (e.get? f) := by
  have hrules : (p.mapping.resolve doc settings p.isOverridden).get? f =
      if p.isOverridden f then none else p.mapping.value? f doc settings :=
    Mapping.get?_resolve h.nodup_fields f
  by_cases hover : ∃ o, (f, o) ∈ p.overrides
  · obtain ⟨o, ho⟩ := hover
    obtain ⟨found, hfound, hget⟩ := get?_applyOverrides h.built.nodup_overrides he ho
    rw [hrules, if_pos (isOverridden_eq_true.mpr ⟨o, ho⟩), Option.or_none] at hget
    exact (resolves_iff_of_mem h ho).mpr ⟨found, hfound, hget.symm⟩
  · have hnone : ∀ o, (f, o) ∉ p.overrides := fun o ho => hover ⟨o, ho⟩
    have hget := get?_applyOverrides_of_notMem (f := f) he fun hmem => by
      obtain ⟨⟨g, o⟩, ho, hg⟩ := List.mem_map.mp hmem
      exact hnone o (hg ▸ ho)
    rw [hrules, if_neg (fun h => hover (isOverridden_eq_true.mp h)),
      Mapping.value?_eq_firstValue?] at hget
    exact (resolves_iff_of_notMem hnone).mpr hget.symm

/-- A profile breaks down where an override does. -/
theorem resolve_eq_error_iff {fault : Breakdown} :
    p.resolve doc settings = .error fault ↔
      ∃ f o, (f, o) ∈ p.overrides ∧ o.apply doc settings = .error fault := by
  rw [resolve_eq_error]
  constructor
  · rintro ⟨⟨f, ho⟩, hsearch⟩
    exact ⟨f, .issuerTaxIdScan, ho, Override.apply_eq_error.mpr ⟨rfl, hsearch⟩⟩
  · rintro ⟨f, o, ho, happly⟩
    obtain ⟨rfl, hsearch⟩ := Override.apply_eq_error.mp happly
    exact ⟨⟨f, ho⟩, hsearch⟩

/-- A profile resolves an extraction exactly when it has, for each field, what stands there. -/
theorem resolve_eq_ok_iff (h : p.Declared) :
    p.resolve doc settings = .ok e ↔ ∀ f, p.Resolves doc settings f (e.get? f) := by
  refine ⟨resolves_of_resolve h, fun hall => ?_⟩
  have hanswers : ∀ fault, p.resolve doc settings ≠ .error fault := by
    intro fault hfault
    obtain ⟨f, o, ho, happly⟩ := resolve_eq_error_iff.mp hfault
    obtain ⟨found, hfound, -⟩ := (resolves_iff_of_mem h ho).mp (hall f)
    rw [happly] at hfound
    exact nomatch hfound
  obtain ⟨e', he'⟩ := exists_eq_ok hanswers
  have hsame : e' = e :=
    Extraction.ext fun f => (resolves_of_resolve h he' f).unique h (hall f)
  rw [he', hsame]

/-! ### Profiles of the same rules -/

theorem Alike.mem_overrides (h : p.Alike q) (hp : p.Declared) (hq : q.Declared) {o : Override} :
    (f, o) ∈ p.overrides ↔ (f, o) ∈ q.overrides := by
  rw [hp.mem_overrides, hq.mem_overrides, h.overrides f]

theorem Alike.resolves (h : p.Alike q) (hp : p.Declared) (hq : q.Declared)
    (hv : p.Resolves doc settings f v?) : q.Resolves doc settings f v? := by
  have hmem : ∀ {o}, (f, o) ∈ p.overrides ↔ (f, o) ∈ q.overrides := h.mem_overrides hp hq
  cases hv with
  | found declared applied foreign => exact .found (hmem.mp declared) applied foreign
  | receiver declared applied issuer own => exact .receiver (hmem.mp declared) applied issuer own
  | nothing declared applied => exact .nothing (hmem.mp declared) applied
  | attempts declarative =>
    rw [h.attempts f]
    exact .attempts fun o ho => declarative o (hmem.mpr ho)

/-- Profiles of the same rules resolve the same. -/
theorem Alike.resolve_eq (h : p.Alike q) (hp : p.Declared) (hq : q.Declared) :
    p.resolve doc settings = q.resolve doc settings := by
  cases hresolve : p.resolve doc settings with
  | error fault =>
    obtain ⟨f, o, ho, happly⟩ := resolve_eq_error_iff.mp hresolve
    exact (resolve_eq_error_iff.mpr ⟨f, o, (h.mem_overrides hp hq).mp ho, happly⟩).symm
  | ok e =>
    have hall : ∀ f, q.Resolves doc settings f (e.get? f) := fun f =>
      h.resolves hp hq (resolves_of_resolve hp hresolve f)
    exact ((resolve_eq_ok_iff hq).mpr hall).symm

/-! ### The main statement -/

/-- A profile that a record in JSON makes is declared. -/
theorem declared_of_record {members : List (String × Json)} {record : ProfileRecord}
    (hread : ProfileRecord.ofTree (Tree.ofJson (.object members)) = .ok record)
    (h : record.profile = .ok p) : p.Declared := by
  refine .inl ⟨ProfileRecord.built_profile h, ?_⟩
  rw [(ProfileRecord.of_profile_eq_ok h).2.1]
  cases hm : record.fields with
  | none => exact .empty
  | some m => exact Registry.built_of_ofTree hread m hm

/-- **Field by field.** A declared profile resolves for each field what its override finds, or
without one what its attempts find, and breaks down where an override does. A list of attempts finds
what the first part finds, or else what the rest does, and an attempt finds exactly the values that
its conditions admit. Profiles of the same rules resolve the same; the order in which calls or the
members of JSON objects declare the rules and overrides of different fields does not count. -/
theorem resolves_field_by_field (hp : p.Declared) (doc : Document) (settings : Settings) :
    (∀ e, p.resolve doc settings = .ok e ↔ ∀ f, p.Resolves doc settings f (e.get? f)) ∧
    (∀ fault, p.resolve doc settings = .error fault ↔
      ∃ f o, (f, o) ∈ p.overrides ∧ o.apply doc settings = .error fault) ∧
    (∀ f xs ys, Attempt.firstValue? doc settings f (xs ++ ys) =
      (Attempt.firstValue? doc settings f xs).or (Attempt.firstValue? doc settings f ys)) ∧
    (∀ f a v, Attempt.firstValue? doc settings f [a] = some v ↔
      Attempt.Finds doc settings f a v) ∧
    (∀ q : Profile, q.Declared → q.Alike p → q.resolve doc settings = p.resolve doc settings) ∧
    (∀ rules rules' names names' q, SameByKey rules' rules → SameByKey names' names →
      (p.withMapping (.pushAll rules)).withOverrides names = .ok q →
        ∃ q', (p.withMapping (.pushAll rules')).withOverrides names' = .ok q' ∧
          q'.resolve doc settings = q.resolve doc settings) ∧
    (∀ members members' record q, List.Forall₂ ProfileRecord.Reordered members members' →
      ProfileRecord.ofTree (Tree.ofJson (.object members)) = .ok record →
      record.profile = .ok q →
        ∃ record' q', ProfileRecord.ofTree (Tree.ofJson (.object members')) = .ok record' ∧
          record'.profile = .ok q' ∧ q'.resolve doc settings = q.resolve doc settings) := by
  refine ⟨fun e => resolve_eq_ok_iff hp, fun fault => resolve_eq_error_iff,
    fun f xs ys => List.findSome?_append, fun f a v => ?_,
    fun q hq halike => halike.resolve_eq hq hp, ?_, ?_⟩
  · rw [← Attempt.value?_eq_some, Attempt.firstValue?, List.findSome?_cons, List.findSome?_nil]
    cases Attempt.value? doc settings f a <;> rfl
  · intro rules rules' names names' q hrules hnames hq
    obtain ⟨q', hq', halike⟩ := alike_of_calls hrules hnames hq
    have hdeclared : ∀ {rules names q},
        (p.withMapping (.pushAll rules)).withOverrides names = .ok q → q.Declared := by
      intro rules names q hq
      refine .inl ⟨(hp.built.withMapping _).withOverrides hq, ?_⟩
      rw [mapping_of_withOverrides hq]
      exact Mapping.built_pushAll rules
    exact ⟨q', hq', halike.resolve_eq (hdeclared hq') (hdeclared hq)⟩
  · intro members members' record q hmembers hread hq
    obtain ⟨record', q', hread', hq', halike⟩ :=
      ProfileRecord.alike_of_reordered hmembers hread hq
    exact ⟨record', q', hread', hq',
      halike.resolve_eq (declared_of_record hread' hq') (declared_of_record hread hq)⟩

/-- Rules for the total and the client. -/
private def totalAndClient : Mapping := .pushAll [(.total, [⟨.constant "1,00", none⟩]),
  (.client, [⟨.line 3 (.token 1), none⟩, ⟨.line 2 (.token 1), some .nonEmpty⟩])]

/-- A profile whose rules for the total an override replaces. -/
private def overriddenTotal : Profile :=
  ⟨"norte", [], [], none, totalAndClient, [(.total, .lastAmountOnTotalLine)]⟩

/-- The override fills the total, and the second attempt the client. -/
theorem resolves_field_by_field_overridden_total :
    overriddenTotal.Declared ∧ ∃ e,
      overriddenTotal.resolve ⟨["Total 12,10 EUR", "Juan"]⟩ .standard = .ok e ∧
      (e.get? .total).map (·.shown) = some "12.10" ∧ e.get? .client = some (.text "Juan") ∧
      overriddenTotal.Resolves ⟨["Total 12,10 EUR", "Juan"]⟩ .standard .client
        (some (.text "Juan")) := by
  have hadded : ((named "norte").withMapping totalAndClient).withOverride .total
      "last_amount_on_total_line" = .ok overriddenTotal :=
    withOverride_eq_ok.mpr ⟨.lastAmountOnTotalLine, by decide +kernel, rfl⟩
  have hbuilt : overriddenTotal.Built :=
    ((Built.named "norte").withMapping totalAndClient).withOverride hadded
  have hdeclared : overriddenTotal.Declared := .inl ⟨hbuilt, Mapping.built_pushAll _⟩
  have hcheck : ((overriddenTotal.resolve ⟨["Total 12,10 EUR", "Juan"]⟩ .standard).toOption.any
      fun e => decide ((e.get? .total).map (·.shown) = some "12.10" ∧
        e.get? .client = some (.text "Juan"))) = true := by decide +kernel
  obtain ⟨e, he, hfields⟩ := exists_eq_ok_of_any hcheck
  obtain ⟨htotal, hclient⟩ := of_decide_eq_true hfields
  have hresolves := ((resolves_field_by_field hdeclared _ _).1 e).mp he .client
  rw [hclient] at hresolves
  exact ⟨hdeclared, e, he, htotal, hclient, hresolves⟩

end Profile

end InvoiceFields
