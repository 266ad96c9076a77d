import InvoiceFields.Proofs.Document.LiteralText
import InvoiceFields.Proofs.Registry.Acceptance
import InvoiceFields.Proofs.Registry.Selection
import InvoiceFields.Proofs.TaxId.Reportable

/-!
# Which registered profiles can be selected

A registry takes every profile that has a keyword or a tax identifier. A keyword always selects it,
by the source that is named like the keyword. An identifier selects it only if a search can report
the identifier at all: a profile keeps the canonical forms of any texts, and one that is mistyped
stands on no document (`registered_selects_iff`).
-/

namespace InvoiceFields

variable {p : Profile} {r : Registry} {doc : Document} {source k id : String}
variable {settings : Settings}

/-! ### Sources -/

/-- There is a source with a given keyword in its name. -/
theorem Profile.Built.exists_source (h : p.Built) (hk : k ∈ p.keywords) :
    ∃ source : String, k.toList <:+: Text.lowerChars source.toList := by
  obtain ⟨raw, rfl⟩ := h.exists_cleanKeyword hk
  have hchars : (Profile.cleanKeyword raw).toList = Text.lowerChars (Text.trim raw).toList := by
    rw [Profile.toList_cleanKeyword, Text.trim, String.toList_ofList]
  exact ⟨Text.trim raw, hchars ▸ List.infix_rfl⟩

namespace Registry

/-- The only profile of a registry is selected by a source with one of its keywords, whatever the
document and the settings. -/
theorem identify_of_infix (hk : k ∈ p.keywords) (h : k.toList <:+: Text.lowerChars source.toList) :
    (Registry.mk [p]).identify doc (some source) settings = .ok (some p) := by
  have hmatches : p.matchesSource source = true := Profile.matchesSource_eq_true_iff.mpr ⟨k, hk, h⟩
  have hfind : (Registry.mk [p]).bySource? source = some p :=
    List.find?_cons_of_pos hmatches
  rw [identify, Option.bind_some, hfind]

/-! ### Documents -/

/-- Under the standard settings a search reports every candidate of the document. -/
theorem exists_all_standard (doc : Document) : ∃ ids, Settings.standard.search.all doc = .ok ids ∧
    ∀ id, id ∈ ids ↔ ∃ line ∈ doc.lines, id ∈ TaxId.candidates line := by
  cases hall : Settings.standard.search.all doc with
  | error fault =>
    obtain ⟨-, -, -, -, -, -, hvalidated, -⟩ := TaxId.Search.all_eq_error.mp hall
    exact nomatch hvalidated
  | ok ids =>
    refine ⟨ids, rfl, fun id => ?_⟩
    have haccepts : ∀ id, Settings.standard.search.accepts id = .ok true := fun _ => rfl
    simp only [TaxId.Search.mem_all hall, haccepts, and_true]

/-- The only profile of a registry is selected by a document that consists of one of its
identifiers, if that one can be found. -/
theorem identify_of_reportable (hp : p.Built) (hid : id ∈ p.taxIds)
    (h : TaxId.Reportable id.toList) :
    (Registry.mk [p]).identify ⟨[id]⟩ none .standard = .ok (some p) := by
  obtain ⟨hcanonical, hne⟩ := hp.canonical hid
  have hsame : TaxId.same id id = true := TaxId.same_eq_true.mpr ⟨by rwa [hcanonical], rfl⟩
  obtain ⟨ids, hall, hmem⟩ := exists_all_standard ⟨[id]⟩
  have hfound : id ∈ ids := (hmem id).mpr ⟨id, List.mem_cons_self, h.mem_candidates hcanonical⟩
  have hmatches : p.matchesTaxIds ids = true :=
    List.any_eq_true.mpr ⟨id, hid, List.any_eq_true.mpr ⟨id, hfound, hsame⟩⟩
  have hconsults : ¬ (Registry.mk [p]).profiles.all (·.taxIds.isEmpty) = true := by
    simpa using List.ne_nil_of_mem hid
  rw [identify, Option.bind_none, byContent?, if_neg hconsults, hall]
  exact congrArg Except.ok (List.find?_cons_of_pos hmatches)

/-! ### The main statement -/

/-- Some request under the standard settings selects a profile. -/
def Selects (r : Registry) (p : Profile) : Prop :=
  ∃ doc source, r.identify doc source .standard = .ok (some p)

/-- Whatever selects a built profile does so by a keyword or by an identifier that can be found. -/
theorem Selects.keywords_or_reportable (hp : p.Built) (h : r.Selects p) :
    p.keywords ≠ [] ∨ ∃ id ∈ p.taxIds, TaxId.Reportable id.toList := by
  obtain ⟨doc, source, h⟩ := h
  rw [identify] at h
  split at h
  case h_1 q hq =>
    cases h
    obtain ⟨s, -, hfind⟩ := Option.bind_eq_some_iff.mp hq
    have hmatches := List.find?_some hfind
    obtain ⟨k, hk, -⟩ := Profile.matchesSource_eq_true_iff.mp hmatches
    exact .inl (List.ne_nil_of_mem hk)
  case h_2 =>
    obtain ⟨-, id, hid, line, -, found, hfound, hsame, -⟩ := exists_of_byContent? h
    -- two canonical forms of one party are equal
    have hcanonical := (hp.canonical hid).1
    have heq : id = found := by
      rw [← hcanonical, (TaxId.same_eq_true.mp hsame).2, TaxId.normalize_of_mem_candidates hfound]
    exact .inr ⟨id, hid, (TaxId.exists_mem_candidates_iff hcanonical).mp ⟨line, heq ▸ hfound⟩⟩

/-- A registry with one built profile selects it exactly by its keywords and by its identifiers
that can be found. -/
theorem selects_singleton_iff (hp : p.Built) :
    (Registry.mk [p]).Selects p ↔
      p.keywords ≠ [] ∨ ∃ id ∈ p.taxIds, TaxId.Reportable id.toList := by
  refine ⟨Selects.keywords_or_reportable hp, ?_⟩
  rintro (hkeywords | ⟨id, hid, hreportable⟩)
  · obtain ⟨k, hk⟩ := List.exists_mem_of_ne_nil _ hkeywords
    obtain ⟨source, hinfix⟩ := hp.exists_source hk
    exact ⟨⟨[]⟩, some source, identify_of_infix hk hinfix⟩
  · exact ⟨⟨[id]⟩, none, identify_of_reportable hp hid hreportable⟩

/-- An empty registry has one reason only to turn down a profile. -/
theorem register_empty_eq_error {e : ConfigError} :
    empty.register p = .error e ↔
      (p.keywords = [] ∧ p.taxIds = []) ∧ e = .unreachableProfile p.name := by
  have hfresh : empty.get? p.name = none := rfl
  rw [register_eq_error, or_iff_left fun h => h.2.1 hfresh, isReachable_iff, not_or, not_not,
    not_not]

/-- **Which registered profiles can be selected.** An empty registry turns down exactly the
profiles with neither keywords nor identifiers. Any other is selected through each of its keywords,
by a source alone, and through each of its reportable identifiers, by a document alone; so it can
be selected exactly if it has one or the other. -/
theorem registered_selects_iff (hp : p.Built) :
    (empty.register p = .error (.unreachableProfile p.name) ↔ p.keywords = [] ∧ p.taxIds = []) ∧
    (∀ e, empty.register p = .error e → e = .unreachableProfile p.name) ∧
    ∀ r, empty.register p = .ok r →
      (∀ k ∈ p.keywords, ∃ source : String, k.toList <:+: Text.lowerChars source.toList ∧
        ∀ doc settings, r.identify doc (some source) settings = .ok (some p)) ∧
      (∀ id ∈ p.taxIds, TaxId.Reportable id.toList →
        r.identify ⟨[id]⟩ none .standard = .ok (some p)) ∧
      (r.Selects p ↔ p.keywords ≠ [] ∨ ∃ id ∈ p.taxIds, TaxId.Reportable id.toList) := by
  refine ⟨register_empty_eq_error.trans (and_iff_left rfl),
    fun e he => (register_empty_eq_error.mp he).2, fun r hr => ?_⟩
  obtain ⟨-, -, rfl⟩ := register_eq_ok.mp hr
  refine ⟨fun k hk => ?_, fun id => identify_of_reportable hp, selects_singleton_iff hp⟩
  obtain ⟨source, hinfix⟩ := hp.exists_source hk
  exact ⟨source, hinfix, fun doc settings => identify_of_infix hk hinfix⟩

/-- A profile that is registered with one identifier is selected by a document with it, without the
country and the dash. -/
theorem registered_selects_iff_country :
    ((Profile.named "norte").withTaxIds ["es-B12345674"]).Built ∧
      ∃ r, empty.register ((Profile.named "norte").withTaxIds ["es-B12345674"]) = .ok r ∧
        r.identify ⟨["B12345674"]⟩ none .standard =
          .ok (some ((Profile.named "norte").withTaxIds ["es-B12345674"])) := by
  have hbuilt : ((Profile.named "norte").withTaxIds ["es-B12345674"]).Built :=
    (Profile.Built.named _).withTaxIds _
  have hid : "B12345674" ∈ ((Profile.named "norte").withTaxIds ["es-B12345674"]).taxIds := by
    decide +kernel
  have hshaped : TaxId.Shaped "B12345674".toList :=
    TaxId.occursIn_taxIdCanonical.mp (by decide +kernel)
  have hregister : empty.register ((Profile.named "norte").withTaxIds ["es-B12345674"]) =
      .ok ⟨[(Profile.named "norte").withTaxIds ["es-B12345674"]]⟩ := by
    decide +kernel
  exact ⟨hbuilt, _, hregister,
    ((registered_selects_iff hbuilt).2.2 _ hregister).2.1 _ hid (.inl hshaped)⟩

/-- A profile is registered with a mistyped identifier, which has a digit too few, and nothing can
select it. -/
theorem exists_registered_not_selected :
    ¬ ∀ p r, p.Built → empty.register p = .ok r → r.Selects p := by
  intro hall
  have hbuilt : ((Profile.named "norte").withTaxIds ["B1234567"]).Built :=
    (Profile.Built.named _).withTaxIds _
  have htaxIds : ((Profile.named "norte").withTaxIds ["B1234567"]).taxIds = ["B1234567"] := by
    decide +kernel
  have hregister : empty.register ((Profile.named "norte").withTaxIds ["B1234567"]) =
      .ok ⟨[(Profile.named "norte").withTaxIds ["B1234567"]]⟩ := by
    decide +kernel
  rcases (hall _ _ hbuilt hregister).keywords_or_reportable hbuilt with hkeywords | ⟨id, hid, h⟩
  · exact hkeywords rfl
  · rw [htaxIds, List.mem_singleton] at hid
    subst hid
    rcases h with hshaped | ⟨rest, hcountry, -⟩
    · exact absurd hshaped.length_eq (by decide)
    · exact absurd (List.cons.inj hcountry).1 (by decide)

end Registry

end InvoiceFields
