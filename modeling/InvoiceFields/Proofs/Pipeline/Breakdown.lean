import InvoiceFields.Proofs.Pipeline.Provenance
import InvoiceFields.Proofs.Registry.Selection
import InvoiceFields.Proofs.TaxId.Shape

/-!
# When an extraction breaks down

Where all rates can be added to one, an extraction breaks down in two ways. The notice in the log
may show a rate that is out of range as a percentage. Or the control character of a tax identifier
is checked, and the identifier cannot be divided in front of it; this takes digits outside ASCII.
`run_breaks_down_iff` says on which lines such an identifier does harm: all of them are searched for
the receiver and for the identifiers of profiles, while the search for the issuer stops at the first
line that has one.
-/

namespace InvoiceFields.Pipeline

variable {p : Pipeline} {doc : Document} {source : Option String} {level : LogLevel}
variable {fault : Breakdown}

/-- All rates of a pipeline can be added to one. -/
def RatesAddable (p : Pipeline) : Prop :=
  p.rate.Addable ∧
    ∀ profile ∈ p.registry.profiles, ∀ rate, profile.rate = some rate → rate.Addable

/-- A line is searched for tax identifiers: for the receiver, to select a profile, or for the
issuer. -/
def Searches (p : Pipeline) (doc : Document) (source : Option String) (line : String) : Prop :=
  p.settings.receiver ≠ none ∨ p.registry.Consults source ∨ p.settings.search.Reaches doc.lines line

/-! ### The steps of an extraction -/

/-- A profile breaks down only where the heuristics do, which search for the issuer as well. -/
theorem extractWith_eq_error {profile : Profile} (hrate : (profile.rate.getD p.rate).Addable) :
    p.extractWith profile doc source .warn = .error fault ↔
      Heuristics.scan doc p.settings = .error fault := by
  simp only [extractWith_warn, bind_eq_error, pure_ne_error, Extraction.derive_ne_error hrate,
    and_false, exists_false, or_false]
  constructor
  · rintro (hresolve | ⟨-, -, hscan⟩)
    · exact Heuristics.scan_eq_error.mpr (.inl (Profile.resolve_eq_error.mp hresolve).2)
    · exact hscan
  · intro hscan
    cases hresolve : profile.resolve doc p.settings with
    | ok found => exact .inr ⟨found, rfl, hscan⟩
    | error fault' =>
      -- the profile's override runs the search that the heuristics run
      have hscan' : Heuristics.scan doc p.settings = .error fault' :=
        Heuristics.scan_eq_error.mpr (.inl (Profile.resolve_eq_error.mp hresolve).2)
      exact .inl (hscan'.symm.trans hscan)

/-- An extraction breaks down in the selection of a profile or in the heuristics. -/
theorem extract_eq_error (hrates : p.RatesAddable) :
    p.extract doc source = .error fault ↔
      p.registry.identify doc source p.settings = .error fault ∨
        ((∃ selected?, p.registry.identify doc source p.settings = .ok selected?) ∧
          Heuristics.scan doc p.settings = .error fault) := by
  rw [extract, bind_eq_error]
  refine or_congr_right ?_
  rw [← exists_and_right]
  refine exists_congr fun selected? => and_congr_right fun hselected => ?_
  cases selected? with
  | none =>
    simp only [bind_eq_error, pure_ne_error, and_false, exists_false, or_false,
      Heuristics.extract_eq_error hrates.1]
  | some profile =>
    refine extractWith_eq_error ?_
    cases hrate : profile.rate with
    | none => exact hrates.1
    | some rate => exact hrates.2 profile (Registry.mem_of_identify hselected) rate hrate

/-! ### The lines that are searched -/

/-- Selection or heuristics break down when a line that is searched has an identifier that cannot
be checked. -/
theorem identify_or_scan_eq_error :
    (p.registry.identify doc source p.settings = .error fault ∨
        Heuristics.scan doc p.settings = .error fault) ↔
      fault = .dividedCharacter ∧ p.settings.validated = true ∧
        ∃ line ∈ doc.lines, p.Searches doc source line ∧
          ∃ id ∈ TaxId.candidates line, TaxId.Divided id := by
  rw [Registry.identify_eq_error, TaxId.Search.all_eq_error, Heuristics.scan_eq_error,
    TaxId.Search.first?, TaxId.Search.firstIn_eq_error, Heuristics.clientTaxId_eq_error]
  simp only [Settings.search_breaksAt]
  constructor
  · rintro (⟨hconsults, rfl, line, hline, id, hid, -, hvalidated, hdivided⟩ |
      ⟨rfl, line, hreaches, id, hid, -, hvalidated, hdivided⟩ |
      ⟨rfl, hreceiver, hvalidated, line, hline, id, hid, hdivided⟩)
    · exact ⟨rfl, hvalidated, line, hline, .inr (.inl hconsults), id, hid, hdivided⟩
    · exact ⟨rfl, hvalidated, line, hreaches.mem, .inr (.inr hreaches), id, hid,
        hdivided⟩
    · exact ⟨rfl, hvalidated, line, hline, .inl hreceiver, id, hid, hdivided⟩
  · rintro ⟨rfl, hvalidated, line, hline, hsearches, id, hid, hdivided⟩
    cases hreceiver : p.settings.receiver with
    | some r => exact .inr (.inr ⟨rfl, by simp, hvalidated, line, hline, id, hid, hdivided⟩)
    | none =>
      -- without a receiver every identifier is someone else's
      have hother : p.settings.isReceiver id = false := by
        rw [Settings.isReceiver, hreceiver, Option.any_none]
      rcases hsearches with hgiven | hconsults | hreaches
      · exact absurd hreceiver hgiven
      · exact .inl ⟨hconsults, rfl, line, hline, id, hid, hother, hvalidated, hdivided⟩
      · exact .inr (.inl ⟨rfl, line, hreaches, id, hid, hother, hvalidated, hdivided⟩)

/-! ### The main statement -/

/-- With nothing but warnings in the log, it takes an identifier that cannot be divided. -/
theorem run_eq_error (hrates : p.RatesAddable) :
    p.run doc source = .error fault ↔
      fault = .dividedCharacter ∧ doc.isBlank = false ∧ p.settings.validated = true ∧
        ∃ line ∈ doc.lines, p.Searches doc source line ∧
          ∃ id ∈ TaxId.candidates line, TaxId.Divided id := by
  rw [run]
  cases doc.isBlank with
  | true => simp
  | false =>
    rw [if_neg Bool.false_ne_true, map_eq_error, extract_eq_error hrates]
    constructor
    · rintro (h | ⟨-, h⟩)
      · obtain ⟨hfault, hrest⟩ := identify_or_scan_eq_error.mp (.inl h)
        exact ⟨hfault, rfl, hrest⟩
      · obtain ⟨hfault, hrest⟩ := identify_or_scan_eq_error.mp (.inr h)
        exact ⟨hfault, rfl, hrest⟩
    · rintro ⟨hfault, -, hrest⟩
      rcases identify_or_scan_eq_error.mpr ⟨hfault, hrest⟩ with h | h
      · exact .inl h
      · -- where the heuristics break down, the selection may do so before them
        cases hselected : p.registry.identify doc source p.settings with
        | ok selected? => exact .inr ⟨⟨selected?, rfl⟩, h⟩
        | error fault' =>
          obtain ⟨rfl, -⟩ := identify_or_scan_eq_error.mp (.inl hselected)
          exact .inl (congrArg Except.error hfault.symm)

/-- A document whose digits are ASCII has an answer if it can be logged. -/
theorem exists_run_eq_ok (hrates : p.RatesAddable) (hlog : p.CanLog doc source level)
    (hdigits : ∀ line ∈ doc.lines, TaxId.HasAsciiDigits line.toList) :
    ∃ answer, p.run doc source level = .ok answer := by
  refine exists_eq_ok fun fault h => ?_
  rw [run_of_canLog hlog] at h
  obtain ⟨-, -, -, line, hline, -, id, hid, hdivided⟩ := (run_eq_error hrates).mp h
  exact TaxId.not_divided_of_mem_candidates (hdigits line hline) hid hdivided

/-- **Breakdown.** Where all rates can be added to one, an extraction breaks down exactly when a
notice is due whose rate is out of range as a percentage, or behind it when control characters are
checked and a line that is searched has an identifier that cannot be divided in front of its control
character. A document whose digits are ASCII has an answer, unless the notice breaks down. -/
theorem run_breaks_down_iff (hrates : p.RatesAddable) (doc : Document) (source : Option String)
    (level : LogLevel) :
    (∀ fault, p.run doc source level = .error fault ↔
      fault = .outOfRange ∧ doc.isBlank = false ∧ ¬ p.CanLog doc source level ∨
      fault = .dividedCharacter ∧ p.CanLog doc source level ∧ doc.isBlank = false ∧
        p.settings.validated = true ∧ ∃ line ∈ doc.lines, p.Searches doc source line ∧
          ∃ id ∈ TaxId.candidates line, TaxId.Divided id) ∧
    (p.CanLog doc source level → (∀ line ∈ doc.lines, TaxId.HasAsciiDigits line.toList) →
      ∃ answer, p.run doc source level = .ok answer) := by
  refine ⟨fun fault => ?_, exists_run_eq_ok hrates⟩
  by_cases hlog : p.CanLog doc source level
  · rw [run_of_canLog hlog, run_eq_error hrates]
    simp only [hlog, not_true, and_false, false_or, true_and]
  · cases hdoc : doc.isBlank with
    | true => simp [run, hdoc]
    | false =>
      rw [run_of_not_canLog hdoc hlog, Except.error.injEq]
      simp only [hlog, not_false_eq_true, and_true, false_and, and_false, or_false]
      exact eq_comm

/-- A pipeline without profiles that checks control characters. -/
private def checkingPipeline : Pipeline := ⟨.empty, ⟨none, 10, true⟩, .general⟩

private theorem ratesAddable_checkingPipeline : checkingPipeline.RatesAddable := by
  have hcheck : (VatRate.general.gross.toOption.any fun _ => true) = true := by decide +kernel
  obtain ⟨gross, hgross, -⟩ := exists_eq_ok_of_any hcheck
  exact ⟨⟨gross, hgross⟩, fun _ h => nomatch h⟩

/-- An identifier in ASCII is checked. -/
theorem run_answers_ascii_identifier :
    ∃ answer, checkingPipeline.run ⟨["NIF 12345678Z", "Total 12,10"]⟩ none = .ok answer := by
  refine (run_breaks_down_iff ratesAddable_checkingPipeline _ none .warn).2 (.inl rfl)
    fun line hline c hc hdigit => ?_
  have hcheck : (["NIF 12345678Z", "Total 12,10"].all fun line => line.toList.all fun c =>
      !Text.isDecimalDigit c || Text.isAsciiDigit c) = true := by decide +kernel
  have hascii := List.all_eq_true.mp (List.all_eq_true.mp hcheck line hline) c hc
  rwa [hdigit, Bool.not_true, Bool.false_or] at hascii

/-- An identifier in Arabic digits is not. -/
theorem run_breaks_down_arabic_identifier :
    checkingPipeline.RatesAddable ∧
      ∃ fault, checkingPipeline.run ⟨["NIF ١٢٣٤٥٦٧٨Z", "Total 12,10"]⟩ none = .error fault := by
  refine ⟨ratesAddable_checkingPipeline, exists_eq_error_of_toOption ?_⟩
  have hcheck : (checkingPipeline.run ⟨["NIF ١٢٣٤٥٦٧٨Z", "Total 12,10"]⟩
      none).toOption.isNone = true := by decide +kernel
  exact Option.isNone_iff_eq_none.mp hcheck

/-- A pipeline with a profile whose rate can be added to one, but not be shown as a percentage. -/
private def steepPipeline : Pipeline where
  registry := ⟨[⟨"norte", ["norte"], [], (Decimal.read? "1000000000000000000000000000").bind
    fun d => (VatRate.ofFraction d).toOption, .empty, []⟩]⟩
  settings := .standard
  rate := .general

-- the notice breaks the extraction down, unless only warnings are logged
example : steepPipeline.run ⟨["Total 12,10"]⟩ (some "norte.txt") .info = .error .outOfRange ∧
    (steepPipeline.run ⟨["Total 12,10"]⟩ (some "norte.txt")).toOption.isSome = true :=
  ⟨rfl, by decide +kernel⟩

end InvoiceFields.Pipeline
