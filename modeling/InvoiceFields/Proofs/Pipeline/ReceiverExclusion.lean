import InvoiceFields.Proofs.Pipeline.Provenance
import InvoiceFields.Proofs.Profile.Building
import InvoiceFields.Proofs.Registry.Selection

/-!
# The receiver is never the issuer

The receiver's own identifier stands on most invoices, in one spelling or another. Two tests keep
it out: attempts and overrides ask `Settings.isReceiver`, searches ask `TaxId.Search.excludes`.
They agree on every spelling, so all that an extraction reports, and all that selects a profile,
belongs to someone else. `not_same_receiver` is the main statement.
-/

namespace InvoiceFields

/-- No text that an extraction gives as the issuer's identifier denotes the receiver. -/
def Extraction.IssuedByOther (receiver : String) (e : Extraction) : Prop :=
  ∀ id, e.get? .issuerTaxId = some (.text id) → TaxId.same receiver id = false

variable {settings : Settings} {doc : Document} {e : Extraction} {receiver : String}

theorem Settings.isReceiver_eq_same (hr : settings.receiver = some receiver) (id : String) :
    settings.isReceiver id = TaxId.same receiver id := by
  rw [isReceiver, hr, Option.any_some]

/-- Acceptable values name no receiver as the issuer. -/
theorem Extraction.Forall.issuedByOther (h : e.Forall (settings.accepts · · = true))
    (hr : settings.receiver = some receiver) : e.IssuedByOther receiver := by
  intro id hid
  rw [← Settings.isReceiver_eq_same hr]
  exact Settings.accepts_eq_true.mp (h _ _ hid) id rfl rfl

/-! ### Extractions -/

theorem Mapping.accepts_of_resolve {m : Mapping} {skip : Field → Bool} :
    (m.resolve doc settings skip).Forall (settings.accepts · · = true) :=
  forall_resolve fun _ _ _ => Attempt.accepts_of_value?

theorem Mapping.accepts_of_extract {m : Mapping} {rate : VatRate}
    (h : m.extract doc settings rate = .ok e) : e.Forall (settings.accepts · · = true) := by
  obtain ⟨⟨e', added⟩, hderive, h⟩ := bind_eq_ok.mp h
  obtain rfl := pure_eq_ok.mp h
  exact Extraction.Forall.derive accepts_of_resolve (fun _ _ _ => rfl) hderive

theorem Profile.accepts_of_resolve {p : Profile} (h : p.resolve doc settings = .ok e) :
    e.Forall (settings.accepts · · = true) :=
  forall_resolve (fun _ _ _ => Attempt.accepts_of_value?) (fun _ _ _ _ _ h => h) h

theorem Heuristics.accepts_of_extract {rate : VatRate} (h : extract doc settings rate = .ok e) :
    e.Forall (settings.accepts · · = true) :=
  forall_extract (fun _ => accepts_of_scan) (fun _ _ _ => rfl) h

/-- The client that the heuristics find is the receiver, and the issuer is not. -/
theorem Heuristics.isReceiver_of_scan {issuer client : String} (h : scan doc settings = .ok e)
    (hissuer : e.get? .issuerTaxId = some (.text issuer))
    (hclient : e.get? .clientTaxId = some (.text client)) :
    settings.isReceiver issuer = false ∧ settings.isReceiver client = true := by
  obtain ⟨issuerTaxId, clientTaxId, hfirst, hsecond, hget⟩ := scan_eq_ok.mp h
  rw [hget] at hissuer hclient
  obtain ⟨_, rfl, heq⟩ := Option.map_eq_some_iff.mp hissuer
  cases heq
  obtain ⟨_, rfl, heq⟩ := Option.map_eq_some_iff.mp hclient
  cases heq
  exact ⟨(isReceiver_of_first? hfirst).2, isReceiver_of_clientTaxId hsecond⟩

namespace Pipeline

variable {p : Pipeline} {source : Option String} {level : LogLevel}

theorem accepts_of_reported {answer : Except Failure Outcome}
    (h : p.run doc source level = .ok answer) (he : reported? answer = some e) :
    e.Forall (p.settings.accepts · · = true) := by
  obtain ⟨outcome, hextracted, -, rfl⟩ := exists_extracted_of_reported h he
  exact hextracted.forall_fields (fun _ _ _ => Profile.accepts_of_resolve)
    (fun _ => Heuristics.accepts_of_scan) (fun _ _ _ => rfl)

end Pipeline

/-! ### The main statement -/

namespace Pipeline

/-- **Receiver exclusion.** Neither the answer of a pipeline nor an extraction by rules, by a
profile or by heuristics gives the receiver as the issuer, in whatever spelling. The heuristics
tell both parties apart. A profile that the content of a document selects has an identifier that
stands on the document and is not the receiver's; if the registry is built, it has it literally. -/
theorem not_same_receiver {p : Pipeline} {receiver : String}
    (hr : p.settings.receiver = some receiver) (doc : Document) :
    (∀ source level answer e, p.run doc source level = .ok answer → reported? answer = some e →
      e.IssuedByOther receiver) ∧
    (∀ (m : Mapping) rate e, m.extract doc p.settings rate = .ok e → e.IssuedByOther receiver) ∧
    (∀ (profile : Profile) e, profile.resolve doc p.settings = .ok e →
      e.IssuedByOther receiver) ∧
    (∀ rate e, Heuristics.extract doc p.settings rate = .ok e → e.IssuedByOther receiver) ∧
    (∀ e issuer client, Heuristics.scan doc p.settings = .ok e →
      e.get? .issuerTaxId = some (.text issuer) → e.get? .clientTaxId = some (.text client) →
        issuer ≠ client ∧ TaxId.same issuer client = false) ∧
    (∀ profile, p.registry.byContent? doc p.settings = .ok (some profile) →
      profile ∈ p.registry.profiles ∧ ∃ id ∈ profile.taxIds, ∃ line ∈ doc.lines,
        ∃ found ∈ TaxId.candidates line, TaxId.same id found = true ∧
          TaxId.same receiver found = false ∧ TaxId.same receiver id = false ∧
            (p.registry.Built → id = found)) := by
  refine ⟨fun source level answer e hrun he => (accepts_of_reported hrun he).issuedByOther hr,
    fun m rate e h => (Mapping.accepts_of_extract h).issuedByOther hr,
    fun profile e h => (Profile.accepts_of_resolve h).issuedByOther hr,
    fun rate e h => (Heuristics.accepts_of_extract h).issuedByOther hr,
    fun e issuer client h hissuer hclient => ?_, fun profile h => ?_⟩
  · obtain ⟨hother, hown⟩ := Heuristics.isReceiver_of_scan h hissuer hclient
    constructor
    · rintro rfl
      exact absurd (hown.symm.trans hother) Bool.noConfusion
    · rw [Bool.eq_false_iff]
      intro hsame
      rw [Settings.isReceiver_congr (TaxId.same_eq_true.mp hsame).2, hown] at hother
      exact nomatch hother
  · obtain ⟨hprofile, id, hid, line, hline, found, hfound, hsame, hother⟩ :=
      Registry.exists_of_byContent? h
    have heq : TaxId.normalize id = TaxId.normalize found := (TaxId.same_eq_true.mp hsame).2
    refine ⟨hprofile, id, hid, line, hline, found, hfound, hsame, ?_, ?_, fun hbuilt => ?_⟩
    · rw [← Settings.isReceiver_eq_same hr, hother]
    · rw [← Settings.isReceiver_eq_same hr, Settings.isReceiver_congr heq, hother]
    · -- both are canonical, so being the same is being equal
      rw [← ((hbuilt.profile hprofile).canonical hid).1, heq,
        TaxId.normalize_of_mem_candidates hfound]

/-- An invoice that names its receiver before its issuer. -/
private def invoiceToReceiver : Document :=
  ⟨["FACTURA", "CIF: B-12345674", "NIF 12345678Z", "Total 121,00"]⟩

/-- A pipeline with a profile for the receiver and one for the issuer. -/
private def pipelineWithReceiver : Pipeline where
  registry := ⟨[⟨"propio", [], ["B12345674"], none, .empty, []⟩,
    ⟨"sur", [], ["12345678Z"], none, ⟨[(.issuerTaxId, [⟨.constant "b12345674", none⟩])]⟩, []⟩]⟩
  settings := ⟨some "ES-B12345674", 10, true⟩
  rate := .general

/-- The receiver's own profile is not selected, and a rule that names the receiver fills nothing. -/
theorem not_same_receiver_own_profile :
    ∃ outcome, pipelineWithReceiver.run invoiceToReceiver none = .ok (.ok outcome) ∧
      outcome.profile = some "sur" ∧ outcome.fields.IssuedByOther "ES-B12345674" ∧
      outcome.fields.row =
        ["factura", "", "", "", "12345678Z", "", "B12345674", "", "", "121.00", "100.00", "21.00",
          ""] := by
  have hcheck : ((pipelineWithReceiver.run invoiceToReceiver none).toOption.any
      fun answer => answer.toOption.any fun outcome =>
        decide (outcome.profile = some "sur" ∧ outcome.fields.row =
          ["factura", "", "", "", "12345678Z", "", "B12345674", "", "", "121.00", "100.00",
            "21.00", ""])) = true := by decide +kernel
  obtain ⟨answer, hrun, hanswer⟩ := exists_eq_ok_of_any hcheck
  obtain ⟨outcome, rfl, houtcome⟩ := exists_eq_ok_of_any hanswer
  obtain ⟨hprofile, hrow⟩ := of_decide_eq_true houtcome
  have hother := (not_same_receiver rfl invoiceToReceiver).1 none _ _ _ hrun rfl
  exact ⟨outcome, hrun, hprofile, hother, hrow⟩

end Pipeline

end InvoiceFields
