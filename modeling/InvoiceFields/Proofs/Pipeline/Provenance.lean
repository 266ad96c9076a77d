import InvoiceFields.Pipeline
import InvoiceFields.Proofs.Heuristics.Scan
import InvoiceFields.Proofs.VatRate.Usable

/-!
# Where the values of an extraction come from

Three sources fill the fields of a document: the profile selected for it, the heuristics for any
layout, and the arithmetic of base, tax and total. `Extracted` says, field by field, which of them
a value comes from, and `Concluded` what is answered about the fields so obtained; both are
relations that do not follow the steps of the computation. `run_eq_ok_iff_extracted` is the main
statement: on a document that is not blank, the answers of a pipeline are exactly those that the
two relations allow. What is logged does not matter, except that the notice on the selected profile
can break down (`CanLog`).
-/

namespace InvoiceFields.Pipeline

/-! ### The relations -/

/-- The value that the heuristics offer for a gap. Amounts hang together: where the profile has a
base or a total, the heuristics offer no base, tax or total. -/
def filler? (found heuristic : Extraction) (f : Field) : Option FieldValue :=
  if (found.get? .base ≠ none ∨ found.get? .total ≠ none) ∧ (f = .base ∨ f = .tax ∨ f = .total)
  then none
  else heuristic.get? f

/-- The values that are found, those of the profile first. -/
def gathered (found heuristic : Extraction) : Extraction :=
  ⟨fun f => (found.get? f).or (filler? found heuristic f)⟩

/-- The outcomes of extracting a document. -/
inductive Extracted (p : Pipeline) (doc : Document) (source : Option String) : Outcome → Prop
  /-- A profile is selected. Its values come first, then those that the heuristics offer, then the
  members of base, tax and total that follow from these by its rate. -/
  | byProfile {profile : Profile} {found heuristic fields : Extraction} {completed : Amounts}
      {fallback : List Field}
      (selected : p.registry.identify doc source p.settings = .ok (some profile))
      (resolved : profile.resolve doc p.settings = .ok found)
      (scanned : Heuristics.scan doc p.settings = .ok heuristic)
      (derived : (gathered found heuristic).amounts.complete (profile.rate.getD p.rate) =
        .ok completed)
      (values : ∀ f, fields.get? f = (found.get? f).or
        ((filler? found heuristic f).or (Extraction.derived? completed f)))
      (mem_fallback : ∀ f, f ∈ fallback ↔ found.get? f = none ∧ filler? found heuristic f ≠ none)
      (fallback_sorted : fallback.Pairwise (·.index < ·.index)) :
      Extracted p doc source ⟨some profile.name, fallback, fields⟩
  /-- No profile is selected, and the heuristics fill all fields. -/
  | byHeuristics {fields : Extraction}
      (unselected : p.registry.identify doc source p.settings = .ok none)
      (values : Heuristics.extract doc p.settings p.rate = .ok fields) :
      Extracted p doc source ⟨none, [], fields⟩

/-- What is answered about an outcome. -/
inductive Concluded (outcome : Outcome) : Except Failure Outcome → Prop
  /-- No field is resolved. -/
  | noData (open_ : ∀ f, outcome.fields.get? f = none) : Concluded outcome (.error .noData)
  /-- Some field is resolved, but neither base nor total. -/
  | noTotals {f : Field} (resolved : outcome.fields.get? f ≠ none)
      (base : outcome.fields.get? .base = none) (total : outcome.fields.get? .total = none) :
      Concluded outcome (.error (.noTotals outcome.fields))
  /-- Base or total is resolved. -/
  | ok (totals : outcome.fields.get? .base ≠ none ∨ outcome.fields.get? .total ≠ none) :
      Concluded outcome (.ok outcome)

/-- The log gets through: where it has notices, the rate that the selected profile is used with is
in range as a percentage. -/
def CanLog (p : Pipeline) (doc : Document) (source : Option String) (level : LogLevel) : Prop :=
  level = .warn ∨ ∀ profile, p.registry.identify doc source p.settings = .ok (some profile) →
    ¬ Decimal.OutOfRange ((profile.rate.getD p.rate).fraction.value * 100)

/-! ### Filling gaps -/

variable {p : Pipeline} {doc : Document} {source : Option String} {level : LogLevel}
variable {found heuristic : Extraction}

theorem get?_admissible (found heuristic : Extraction) (f : Field) :
    (admissible found heuristic).get? f = filler? found heuristic f := by
  rw [admissible, filler?]
  cases h : found.hasTotals with
  | true =>
    rw [Extraction.hasTotals_eq_true] at h
    simp only [if_true, h, true_and, Extraction.get?_remove]
    cases f <;> rfl
  | false =>
    rw [Extraction.hasTotals_eq_false] at h
    simp [h.1, h.2]

theorem orElse_admissible (found heuristic : Extraction) :
    found.orElse (admissible found heuristic) = gathered found heuristic := by
  ext f
  rw [Extraction.get?_orElse, get?_admissible, gathered]

theorem mem_missing_admissible {f : Field} :
    f ∈ found.missing (admissible found heuristic) ↔
      found.get? f = none ∧ filler? found heuristic f ≠ none := by
  rw [Extraction.mem_missing, get?_admissible]

/-- A profile that finds nothing leaves everything to the heuristics. -/
theorem gathered_empty (heuristic : Extraction) : gathered .empty heuristic = heuristic := by
  ext f
  simp [gathered, filler?]

/-! ### The log -/

/-- Without notices, the three sources of values are asked at once. -/
theorem extractWith_warn {profile : Profile} : p.extractWith profile doc source .warn = do
    let found ← profile.resolve doc p.settings
    let fill := admissible found (← Heuristics.scan doc p.settings)
    let (fields, _) ← (found.orElse fill).derive (profile.rate.getD p.rate)
    return ⟨some profile.name, found.missing fill, fields⟩ := rfl

/-- A notice that can be written does not change what is extracted; any other ends the
extraction. -/
theorem extractWith_eq {profile : Profile} : p.extractWith profile doc source level =
    (p.notice? profile source level).bind fun _ => p.extractWith profile doc source .warn := rfl

theorem notice?_eq_error {profile : Profile} {fault : Breakdown} :
    p.notice? profile source level = .error fault ↔ fault = .outOfRange ∧ level ≠ .warn ∧
      Decimal.OutOfRange ((profile.rate.getD p.rate).fraction.value * 100) := by
  rw [notice?]
  split
  case isTrue h => exact iff_of_false pure_ne_error fun ⟨_, hne, _⟩ => hne h
  case isFalse h =>
    rw [bind_eq_error, VatRate.shown_eq_error]
    simp only [pure_ne_error, and_false, exists_false, or_false, ne_eq, h, not_false_eq_true,
      true_and]

theorem extract_of_canLog (h : p.CanLog doc source level) :
    p.extract doc source level = p.extract doc source := by
  rw [extract, extract]
  rcases hselected : p.registry.identify doc source p.settings with fault | _ | profile
  · rfl
  · rfl
  · obtain ⟨notice, hnotice⟩ : ∃ notice, p.notice? profile source level = .ok notice :=
      exists_eq_ok fun fault hfault => by
        obtain ⟨-, hne, hout⟩ := notice?_eq_error.mp hfault
        exact h.elim hne fun h => h profile hselected hout
    show p.extractWith profile doc source level = p.extractWith profile doc source .warn
    rw [extractWith_eq, hnotice]
    rfl

theorem extract_of_not_canLog (h : ¬ p.CanLog doc source level) :
    p.extract doc source level = .error .outOfRange := by
  simp only [CanLog, not_or, Classical.not_forall, not_not] at h
  obtain ⟨hne, profile, hselected, hout⟩ := h
  have hnotice : p.notice? profile source level = .error .outOfRange :=
    notice?_eq_error.mpr ⟨rfl, hne, hout⟩
  rw [extract, hselected]
  show p.extractWith profile doc source level = _
  rw [extractWith_eq, hnotice]
  rfl

/-- What is logged changes no answer, as long as it can be logged. -/
theorem run_of_canLog (h : p.CanLog doc source level) :
    p.run doc source level = p.run doc source := by
  rw [run, extract_of_canLog h, run]

/-- A document that is not blank has no answer if the notice on its profile breaks down. -/
theorem run_of_not_canLog (hdoc : doc.isBlank = false) (h : ¬ p.CanLog doc source level) :
    p.run doc source level = .error .outOfRange := by
  rw [run, hdoc, if_neg Bool.false_ne_true, extract_of_not_canLog h]
  rfl

/-- An answer does not depend on what is logged. -/
theorem run_eq_ok_of_level {answer : Except Failure Outcome}
    (h : p.run doc source level = .ok answer) : p.run doc source = .ok answer := by
  by_cases hlog : p.CanLog doc source level
  · rw [← run_of_canLog hlog, h]
  · cases hdoc : doc.isBlank with
    | true => rw [← h, run, run, hdoc]; rfl
    | false => exact nomatch (run_of_not_canLog hdoc hlog).symm.trans h

/-! ### The extraction -/

/-- A pipeline extracts exactly the outcomes that the relation allows. -/
theorem extract_eq_ok {outcome : Outcome} :
    p.extract doc source = .ok outcome ↔ Extracted p doc source outcome := by
  constructor
  · intro h
    rw [extract, bind_eq_ok] at h
    obtain ⟨selected?, hselected, h⟩ := h
    cases selected? with
    | none =>
      obtain ⟨fields, hfields, h⟩ := bind_eq_ok.mp h
      cases pure_eq_ok.mp h
      exact .byHeuristics hselected hfields
    | some profile =>
      simp only [extractWith_warn, bind_eq_ok, Prod.exists, pure_eq_ok] at h
      obtain ⟨found, hfound, heuristic, hscan, fields, added, hderive, rfl⟩ := h
      rw [orElse_admissible, Extraction.derive_eq_ok] at hderive
      obtain ⟨completed, hcompleted, hvalues, -⟩ := hderive
      refine .byProfile hselected hfound hscan hcompleted (fun f => ?_)
        (fun f => mem_missing_admissible) (Extraction.missing_pairwise_index _ _)
      rw [hvalues, gathered, Option.or_assoc]
  · intro h
    cases h with
    | byHeuristics hselected hfields =>
      rw [extract, bind_eq_ok]
      exact ⟨none, hselected, bind_eq_ok.mpr ⟨_, hfields, rfl⟩⟩
    | @byProfile profile found heuristic fields completed fallback hselected hfound hscan
        hcompleted hvalues hmem hsorted =>
      -- the values and the fallback fields determine what the steps must have answered
      obtain ⟨added, hderive⟩ : ∃ added, (found.orElse (admissible found heuristic)).derive
          (profile.rate.getD p.rate) = .ok (fields, added) := by
        simp only [orElse_admissible, Extraction.derive_eq_ok]
        refine ⟨_, completed, hcompleted, fun f => ?_, rfl⟩
        rw [hvalues, gathered, Option.or_assoc]
      have hfallback : found.missing (admissible found heuristic) = fallback :=
        Field.eq_of_pairwise_index (Extraction.missing_pairwise_index _ _) hsorted
          fun f => by rw [hmem, mem_missing_admissible]
      rw [extract, bind_eq_ok]
      refine ⟨some profile, hselected, ?_⟩
      simp only [extractWith_warn, bind_eq_ok, Prod.exists, pure_eq_ok]
      exact ⟨found, hfound, heuristic, hscan, fields, added, hderive, by rw [hfallback]⟩

/-- A profile without rules and overrides finds nothing. -/
theorem resolve_eq_empty {profile : Profile} {settings : Settings}
    (hmapping : profile.mapping.entries = []) (hoverrides : profile.overrides = []) :
    profile.resolve doc settings = .ok .empty := by
  rw [Profile.resolve, hoverrides, Mapping.resolve, hmapping]
  rfl

/-- A profile without rules and overrides leaves the fields to the heuristics and only sets the
rate. -/
theorem extractWith_of_bare {profile : Profile} (source : Option String)
    (hmapping : profile.mapping.entries = []) (hoverrides : profile.overrides = []) :
    (p.extractWith profile doc source .warn).map (·.fields) =
      Heuristics.extract doc p.settings (profile.rate.getD p.rate) := by
  rw [extractWith_warn, resolve_eq_empty hmapping hoverrides, Heuristics.extract]
  cases hscan : Heuristics.scan doc p.settings with
  | error fault => rfl
  | ok heuristic =>
    have hgathered := orElse_admissible .empty heuristic
    rw [gathered_empty] at hgathered
    simp only [bind, Except.bind, hgathered]
    cases heuristic.derive (profile.rate.getD p.rate) <;> rfl

/-! ### The answer -/

/-- The answer to an outcome depends on whether anything, and whether a base or a total, is
resolved. -/
theorem check_eq {outcome : Outcome} {answer : Except Failure Outcome} :
    check outcome = answer ↔ Concluded outcome answer := by
  have hempty := outcome.fields.isEmpty_eq_true
  have htotals := outcome.fields.hasTotals_eq_true
  constructor
  · rintro rfl
    rw [check]
    split
    case isTrue h => exact .noData (hempty.mp h)
    case isFalse h =>
      rw [hempty, Classical.not_forall] at h
      obtain ⟨f, hf⟩ := h
      split
      case isTrue h => exact .ok (htotals.mp h)
      case isFalse h =>
        rw [Bool.not_eq_true, Extraction.hasTotals_eq_false] at h
        exact .noTotals hf h.1 h.2
  · intro h
    cases h with
    | noData hopen => rw [check, if_pos (hempty.mpr hopen)]
    | @noTotals f hf hbase htotal =>
      rw [check, if_neg fun h => hf (hempty.mp h f),
        if_neg (Bool.not_eq_true _ ▸ Extraction.hasTotals_eq_false.mpr ⟨hbase, htotal⟩)]
    | ok h =>
      have hnot : ¬ outcome.fields.isEmpty = true := fun hopen =>
        h.elim (fun h => h (hempty.mp hopen _)) (fun h => h (hempty.mp hopen _))
      rw [check, if_neg hnot, if_pos (htotals.mpr h)]

theorem isBlank_eq_false (hdoc : ∃ line ∈ doc.lines, Text.blankOnly line = false) :
    doc.isBlank = false := by
  rw [Document.isBlank, List.all_eq_false]
  simpa using hdoc

/-- A blank document is turned down; any other has the answers about its outcomes. -/
theorem run_eq_ok {answer : Except Failure Outcome} :
    p.run doc source = .ok answer ↔
      (doc.isBlank = true ∧ answer = .error .emptyDocument) ∨
        (doc.isBlank = false ∧
          ∃ outcome, Extracted p doc source outcome ∧ Concluded outcome answer) := by
  rw [run]
  cases doc.isBlank with
  | true => simp [eq_comm]
  | false => simp [map_eq_ok, extract_eq_ok, check_eq]

/-! ### What is reported -/

/-- The fields that an answer reports: those of a result, or those found without a base and a
total. -/
def reported? : Except Failure Outcome → Option Extraction
  | .ok outcome => some outcome.fields
  | .error (.noTotals found) => some found
  | .error _ => none

/-- What is reported are the fields of the outcome that the answer is about. -/
theorem exists_extracted_of_reported {answer : Except Failure Outcome} {e : Extraction}
    (h : p.run doc source level = .ok answer) (he : reported? answer = some e) :
    ∃ outcome, Extracted p doc source outcome ∧ Concluded outcome answer ∧ outcome.fields = e := by
  rcases run_eq_ok.mp (run_eq_ok_of_level h) with ⟨-, rfl⟩ | ⟨-, outcome, hextracted, hconcluded⟩
  · exact nomatch he
  · refine ⟨outcome, hextracted, hconcluded, ?_⟩
    cases hconcluded with
    | noData => exact nomatch he
    | noTotals | ok => exact Option.some.inj he

/-- What holds of the values of the selected profile, of those of the heuristics and of amounts in
monetary fields holds of all values of an outcome. -/
theorem Extracted.forall_fields {P : Field → FieldValue → Prop} {outcome : Outcome}
    (h : Extracted p doc source outcome)
    (hprofile : ∀ profile e, p.registry.identify doc source p.settings = .ok (some profile) →
      profile.resolve doc p.settings = .ok e → e.Forall P)
    (hscan : ∀ e, Heuristics.scan doc p.settings = .ok e → e.Forall P)
    (hamount : ∀ f d, f.isMonetary = true → P f (.amount d)) : outcome.fields.Forall P := by
  cases h with
  | byHeuristics hselected hfields => exact Heuristics.forall_extract hscan hamount hfields
  | byProfile hselected hfound hscan' hcompleted hvalues =>
    intro f v hv
    rw [hvalues, Option.or_eq_some_iff, Option.or_eq_some_iff] at hv
    rcases hv with hv | ⟨-, hv | ⟨-, hv⟩⟩
    · exact hprofile _ _ hselected hfound f v hv
    · rw [filler?] at hv
      split at hv
      case isTrue => exact nomatch hv
      case isFalse => exact hscan _ hscan' f v hv
    · obtain ⟨d, hd, rfl⟩ := Option.map_eq_some_iff.mp hv
      exact hamount f _ (Amounts.isMonetary_of_member? hd)

/-! ### The main statement -/

/-- **Provenance.** The answers to a document that is not blank are those about an outcome that
the three sources allow; in particular there is one as soon as every source has answered. A
profile without rules and overrides leaves all fields to the heuristics, under its own rate. With
more in the log the answers are the same, unless the notice on the profile breaks down. -/
theorem run_eq_ok_iff_extracted (hdoc : ∃ line ∈ doc.lines, Text.blankOnly line = false) :
    (∀ answer, p.run doc source = .ok answer ↔
      ∃ outcome, Extracted p doc source outcome ∧ Concluded outcome answer) ∧
    (∀ profile outcome, p.registry.identify doc source p.settings = .ok (some profile) →
      profile.mapping.entries = [] → profile.overrides = [] → Extracted p doc source outcome →
      Heuristics.extract doc p.settings (profile.rate.getD p.rate) = .ok outcome.fields) ∧
    ∀ level answer, p.run doc source level = .ok answer ↔
      p.CanLog doc source level ∧ p.run doc source = .ok answer := by
  refine ⟨fun answer => ?_, fun profile outcome hselected hmapping hoverrides hextracted => ?_,
    fun level answer => ⟨fun h => ⟨?_, run_eq_ok_of_level h⟩, fun ⟨hlog, h⟩ => ?_⟩⟩
  · rw [run_eq_ok, isBlank_eq_false hdoc]
    simp
  · rw [← extract_eq_ok, extract, hselected] at hextracted
    rw [← extractWith_of_bare source hmapping hoverrides, map_eq_ok]
    exact ⟨outcome, hextracted, rfl⟩
  · by_contra hlog
    exact nomatch (run_of_not_canLog (isBlank_eq_false hdoc) hlog).symm.trans h
  · rw [run_of_canLog hlog, h]

/-- An invoice with a base that does not belong to its total. -/
private def invoiceWithForeignBase : Document :=
  ⟨["FACTURA", "NIF 12345678Z", "Base imponible 50,00"]⟩

/-- A pipeline with a profile that has a rule for the total. -/
private def pipelineWithTotal : Pipeline where
  registry := ⟨[⟨"norte", ["norte"], [], none, ⟨[(.total, [⟨.constant "121,00", none⟩])]⟩, []⟩]⟩
  settings := .standard
  rate := .general

/-- The profile's total keeps the base of the heuristics out, and the base follows from it. -/
theorem run_extracted_foreign_base :
    ∃ outcome, Extracted pipelineWithTotal invoiceWithForeignBase (some "norte.txt") outcome ∧
      Concluded outcome (.ok outcome) ∧ outcome.fallback = [.type, .issuerTaxId] ∧
      outcome.fields.row =
        ["factura", "", "", "", "12345678Z", "", "", "", "", "121.00", "100.00", "21.00", ""] := by
  have hdoc : ∃ line ∈ invoiceWithForeignBase.lines, Text.blankOnly line = false :=
    ⟨"FACTURA", List.mem_cons_self, by decide⟩
  have hcheck : ((pipelineWithTotal.run invoiceWithForeignBase (some "norte.txt")).toOption.any
      fun answer => answer.toOption.any fun outcome =>
        decide (outcome.fallback = [.type, .issuerTaxId] ∧ outcome.fields.row =
          ["factura", "", "", "", "12345678Z", "", "", "", "", "121.00", "100.00", "21.00", ""])) =
      true := by decide +kernel
  obtain ⟨answer, hrun, hanswer⟩ := exists_eq_ok_of_any hcheck
  obtain ⟨outcome, rfl, houtcome⟩ := exists_eq_ok_of_any hanswer
  obtain ⟨hfallback, hrow⟩ := of_decide_eq_true houtcome
  obtain ⟨outcome', hextracted, hconcluded⟩ := ((run_eq_ok_iff_extracted hdoc).1 _).mp hrun
  obtain rfl : outcome = outcome' := by cases hconcluded; rfl
  exact ⟨outcome, hextracted, hconcluded, hfallback, hrow⟩

end InvoiceFields.Pipeline
