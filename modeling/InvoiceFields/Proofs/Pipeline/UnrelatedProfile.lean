import InvoiceFields.Pipeline
import InvoiceFields.Proofs.TaxId.Shape

/-!
# Profiles that have nothing to do with a document

A profile is unrelated to a document when none of its keywords occurs in the name of the source and
none of its identifiers is found in the text. Wherever it stands in a registry, it does not change
what is extracted (`run_insert_unrelated`). It may have the only identifiers of the registry, and
then it has the document searched that was not looked at before; so the statement is about documents
that the search gets through, such as those with ASCII digits.
-/

namespace InvoiceFields

variable {q : Profile} {before after : List Profile} {doc : Document} {source : Option String}
variable {settings : Settings} {rate : VatRate} {level : LogLevel}

/-- A profile that neither the name of a source nor the identifiers of a document select. -/
structure Profile.Unrelated (q : Profile) (doc : Document) (source : Option String)
    (settings : Settings) : Prop where
  keywords : ∀ name, source = some name →
    ∀ k ∈ q.keywords, Text.contains (Text.lower name) k = false
  taxIds : ∀ found, settings.search.all doc = .ok found →
    ∀ id ∈ q.taxIds, ∀ other ∈ found, TaxId.same id other = false

theorem Profile.Unrelated.matchesSource {name : String}
    (h : q.Unrelated doc (some name) settings) : q.matchesSource name = false :=
  List.any_eq_false.mpr fun k hk => Bool.not_eq_true _ ▸ h.keywords name rfl k hk

theorem Profile.Unrelated.matchesTaxIds {found : List String}
    (h : q.Unrelated doc source settings) (hfound : settings.search.all doc = .ok found) :
    q.matchesTaxIds found = false :=
  List.any_eq_false.mpr fun id hid => by
    rw [Bool.not_eq_true, List.any_eq_false]
    exact fun other hother => Bool.not_eq_true _ ▸ h.taxIds found hfound id hid other hother

/-! ### Selection -/

/-- The first member with a property is found the same without a member that lacks it. -/
theorem find?_insert {α : Type} {p : α → Bool} {q : α} {before after : List α} (hq : p q = false) :
    (before ++ q :: after).find? p = (before ++ after).find? p := by
  rw [List.find?_append, List.find?_append, List.find?_cons, hq]

namespace Registry

theorem bySource?_insert (hq : q.Unrelated doc source settings) :
    source.bind (bySource? ⟨before ++ q :: after⟩) = source.bind (bySource? ⟨before ++ after⟩) := by
  cases source with
  | none => rfl
  | some name => exact find?_insert hq.matchesSource

theorem byContent?_insert (hq : q.Unrelated doc source settings)
    (hsearch : ∃ found, settings.search.all doc = .ok found) :
    byContent? ⟨before ++ q :: after⟩ doc settings = byContent? ⟨before ++ after⟩ doc settings := by
  obtain ⟨found, hfound⟩ := hsearch
  have hlooked : ∀ r : Registry, r.byContent? doc settings =
      .ok (r.profiles.find? (·.matchesTaxIds found)) := by
    intro r
    rw [byContent?]
    split
    case isTrue hnone =>
      -- profiles without identifiers would not be found either
      have hfind : r.profiles.find? (·.matchesTaxIds found) = none := by
        rw [List.find?_eq_none]
        intro p hp
        rw [Profile.matchesTaxIds, List.isEmpty_iff.mp (List.all_eq_true.mp hnone p hp)]
        exact Bool.false_ne_true
      rw [hfind]
    case isFalse => rw [hfound]; rfl
  have hfind : (before ++ q :: after).find? (·.matchesTaxIds found) =
      (before ++ after).find? (·.matchesTaxIds found) := find?_insert (hq.matchesTaxIds hfound)
  exact (hlooked _).trans ((congrArg Except.ok hfind).trans (hlooked _).symm)

/-- An unrelated profile changes no selection. -/
theorem identify_insert (hq : q.Unrelated doc source settings)
    (hsearch : ∃ found, settings.search.all doc = .ok found) :
    identify ⟨before ++ q :: after⟩ doc source settings =
      identify ⟨before ++ after⟩ doc source settings := by
  rw [identify, identify, bySource?_insert hq, byContent?_insert hq hsearch]

end Registry

/-! ### The main statement -/

/-- A search gets through a document whose digits are ASCII. -/
theorem TaxId.Search.exists_all_eq_ok (search : TaxId.Search)
    (hdigits : ∀ line ∈ doc.lines, HasAsciiDigits line.toList) :
    ∃ found, search.all doc = .ok found := by
  refine exists_eq_ok fun fault h => ?_
  obtain ⟨-, line, hline, id, hid, -, -, hdivided⟩ := all_eq_error.mp h
  exact not_divided_of_mem_candidates (hdigits line hline) hid hdivided

namespace Pipeline

/-- A pipeline depends on its registry by the profile that is selected. -/
theorem run_congr_identify {r r' : Registry}
    (h : r.identify doc source settings = r'.identify doc source settings) :
    run ⟨r, settings, rate⟩ doc source level = run ⟨r', settings, rate⟩ doc source level := by
  rw [run, run, extract, extract, h]
  rfl

/-- **Unrelated profiles.** A profile none of whose keywords occurs in the name of the source and
none of whose identifiers is found in the document changes nothing in the answer, wherever it stands
in the registry and whatever is logged. -/
theorem run_insert_unrelated (hdigits : ∀ line ∈ doc.lines, TaxId.HasAsciiDigits line.toList)
    (hq : q.Unrelated doc source settings) :
    run ⟨⟨before ++ q :: after⟩, settings, rate⟩ doc source level =
      run ⟨⟨before ++ after⟩, settings, rate⟩ doc source level :=
  run_congr_identify (Registry.identify_insert hq (settings.search.exists_all_eq_ok hdigits))

/-- A profile that is selected by the name of the source. -/
private def northProfile : Profile := ⟨"norte", ["norte"], [], none, .empty, []⟩

/-- The only profile with an identifier, which is of someone else. -/
private def otherProfile : Profile := ⟨"acme", ["acme"], ["B58818501"], none, .empty, []⟩

private def northDocument : Document := ⟨["CIF A58818501", "Total 12,10"]⟩

/-- The profile of another issuer has the document searched, and changes nothing. -/
theorem run_insert_other_issuer :
    (Registry.mk [northProfile]).register otherProfile = .ok ⟨[northProfile, otherProfile]⟩ ∧
      run ⟨⟨[northProfile, otherProfile]⟩, .standard, .general⟩ northDocument none =
        run ⟨⟨[northProfile]⟩, .standard, .general⟩ northDocument none ∧
      ∃ outcome, run ⟨⟨[northProfile]⟩, .standard, .general⟩ northDocument none =
        .ok (.ok outcome) := by
  have hfound : Settings.standard.search.all northDocument = .ok ["A58818501"] :=
    eq_ok_of_toOption (by decide +kernel)
  have hregister : (Registry.mk [northProfile]).register otherProfile =
      .ok ⟨[northProfile, otherProfile]⟩ := eq_ok_of_toOption (by decide +kernel)
  have hdigits : ∀ line ∈ northDocument.lines, TaxId.HasAsciiDigits line.toList := by
    decide +kernel
  have hdiffers : TaxId.same "B58818501" "A58818501" = false := by decide +kernel
  have hunrelated : otherProfile.Unrelated northDocument none .standard := by
    refine ⟨nofun, fun found h id hid other hother => ?_⟩
    obtain rfl : ["A58818501"] = found := Except.ok.inj (hfound.symm.trans h)
    cases List.mem_singleton.mp hid
    cases List.mem_singleton.mp hother
    exact hdiffers
  have hsame :
      run ⟨⟨[northProfile] ++ otherProfile :: []⟩, .standard, .general⟩ northDocument none =
        run ⟨⟨[northProfile] ++ []⟩, .standard, .general⟩ northDocument none :=
    run_insert_unrelated hdigits hunrelated
  refine ⟨hregister, hsame, ?_⟩
  have hcheck : ((run ⟨⟨[northProfile]⟩, .standard, .general⟩ northDocument none).toOption.any
      fun answer => answer.toOption.any fun _ => true) = true := by decide +kernel
  obtain ⟨answer, hrun, hanswer⟩ := exists_eq_ok_of_any hcheck
  obtain ⟨outcome, rfl, -⟩ := exists_eq_ok_of_any hanswer
  exact ⟨outcome, hrun⟩

end Pipeline

end InvoiceFields
