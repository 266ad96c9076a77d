import InvoiceFields.Proofs.TaxId.Search
import InvoiceFields.Registry

/-!
# Which profile is selected

A profile is selected out of the registry, by the name of the source or by an identifier that
stands on the document (`exists_of_byContent?`). The document is looked at only when the source
selects nothing and some profile has identifiers, and then on all its lines (`identify_eq_error`).
-/

namespace InvoiceFields.Registry

variable {r : Registry} {doc : Document} {source : Option String} {settings : Settings}
variable {profile : Profile}

/-- The document is searched for identifiers to select a profile. -/
def Consults (r : Registry) (source : Option String) : Prop :=
  source.bind r.bySource? = none ∧ ∃ profile ∈ r.profiles, profile.taxIds ≠ []

/-- A profile is selected by an identifier of the document that is not the receiver's. -/
theorem exists_of_byContent? (h : r.byContent? doc settings = .ok (some profile)) :
    profile ∈ r.profiles ∧ ∃ id ∈ profile.taxIds, ∃ line ∈ doc.lines,
      ∃ found ∈ TaxId.candidates line,
        TaxId.same id found = true ∧ settings.isReceiver found = false := by
  rw [byContent?] at h
  split at h
  case isTrue => exact nomatch h
  case isFalse =>
    obtain ⟨ids, hids, h⟩ := bind_eq_ok.mp h
    replace h := pure_eq_ok.mp h
    have hmatches := List.find?_some h
    rw [Profile.matchesTaxIds, List.any_eq_true] at hmatches
    obtain ⟨id, hid, hany⟩ := hmatches
    obtain ⟨found, hfound, hsame⟩ := List.any_eq_true.mp hany
    obtain ⟨line, hline, hcandidate, haccepts⟩ := (TaxId.Search.mem_all hids).mp hfound
    refine ⟨List.mem_of_find?_eq_some h, id, hid, line, hline, found, hcandidate, hsame, ?_⟩
    rw [← Settings.search_excludes]
    exact (TaxId.Search.accepts_eq_ok_true.mp haccepts).1

/-- The profile that is selected is one of the registry. -/
theorem mem_of_identify (h : r.identify doc source settings = .ok (some profile)) :
    profile ∈ r.profiles := by
  rw [identify] at h
  split at h
  case h_1 p hp =>
    cases h
    obtain ⟨s, -, hfind⟩ := Option.bind_eq_some_iff.mp hp
    exact List.mem_of_find?_eq_some hfind
  case h_2 => exact (exists_of_byContent? h).1

/-- Selection breaks down when the document has to be searched and the search does. -/
theorem identify_eq_error {fault : Breakdown} :
    r.identify doc source settings = .error fault ↔
      r.Consults source ∧ settings.search.all doc = .error fault := by
  rw [identify, Consults]
  cases source.bind r.bySource? with
  | some p => simp
  | none =>
    have hall : r.profiles.all (·.taxIds.isEmpty) = true ↔
        ¬ ∃ profile ∈ r.profiles, profile.taxIds ≠ [] := by
      simp
    simp only [true_and, byContent?, hall]
    split
    case isTrue h => simp [h]
    case isFalse h =>
      simp only [Classical.not_not.mp h, true_and, bind_eq_error, pure_ne_error, and_false,
        exists_false, or_false]

end InvoiceFields.Registry
