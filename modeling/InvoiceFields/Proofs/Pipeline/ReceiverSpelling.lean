import InvoiceFields.Pipeline
import InvoiceFields.Proofs.Answer
import InvoiceFields.Proofs.TaxId.CanonicalForm

/-!
# Spellings of the receiver

Settings name the receiver by an identifier in any spelling. What an extraction asks about the
receiver it asks in four places: whether a value is the receiver's, which identifiers a search
leaves out, whether the document mentions the receiver as the client, and which profile the text
selects. All of them see the canonical form alone, so settings that agree up to the spelling of the
receiver (`Settings.Respelled`) extract the same from every document (`run_respelled`).
-/

namespace InvoiceFields

variable {settings settings' : Settings} {doc : Document} {rate : VatRate}

/-- The identifier of the client is the receiver's canonical form, if it is found at all. -/
theorem Heuristics.clientTaxId_eq (s : Settings) : clientTaxId doc s =
    match s.receiver.map TaxId.normalize with
    | none => .ok none
    | some r => do
      let ids ← (TaxId.Search.excluding s.validated none).all doc
      return if ids.any s.isReceiver then some r else none := by
  rw [clientTaxId]
  cases s.receiver <;> rfl

/-- Settings that differ at most in the spelling of the receiver's identifier. -/
structure Settings.Respelled (settings settings' : Settings) : Prop where
  receiver : settings.receiver.map TaxId.normalize = settings'.receiver.map TaxId.normalize
  headerLines : settings.headerLines = settings'.headerLines
  validated : settings.validated = settings'.validated

namespace Settings.Respelled

variable (h : settings.Respelled settings')

include h

/-! ### What is asked about the receiver -/

theorem isReceiver (id : String) : settings.isReceiver id = settings'.isReceiver id := by
  have hcanonical : ∀ s : Settings, s.isReceiver id =
      (s.receiver.map TaxId.normalize).any fun r => !r.isEmpty && r == TaxId.normalize id :=
    fun s => by rw [Settings.isReceiver, Option.any_map]; rfl
  rw [hcanonical, hcanonical, h.receiver]

theorem search : settings.search = settings'.search := by
  rw [Settings.search, Settings.search, TaxId.Search.excluding, TaxId.Search.excluding, h.receiver,
    h.validated]

theorem accepts (f : Field) : ∀ v, settings.accepts f v = settings'.accepts f v
  | .amount _ => rfl
  | .text s => by rw [Settings.accepts, Settings.accepts, h.isReceiver]

theorem clientTaxId :
    Heuristics.clientTaxId doc settings = Heuristics.clientTaxId doc settings' := by
  rw [Heuristics.clientTaxId_eq, Heuristics.clientTaxId_eq, h.receiver, h.validated,
    funext h.isReceiver]

theorem byContent? (r : Registry) : r.byContent? doc settings = r.byContent? doc settings' := by
  rw [Registry.byContent?, Registry.byContent?, h.search]

/-! ### What is extracted -/

theorem scan : Heuristics.scan doc settings = Heuristics.scan doc settings' := by
  rw [Heuristics.scan, Heuristics.scan, h.search, h.clientTaxId, h.headerLines]

theorem firstValue? (f : Field) (attempts : List Attempt) :
    Attempt.firstValue? doc settings f attempts = Attempt.firstValue? doc settings' f attempts := by
  have hvalue : Attempt.value? doc settings f = Attempt.value? doc settings' f := by
    funext a
    rw [Attempt.value?, Attempt.value?, funext (h.accepts f)]
  rw [Attempt.firstValue?, Attempt.firstValue?, hvalue]

theorem override : ∀ o : Override, o.apply doc settings = o.apply doc settings'
  | .invoiceNumberJoined | .lastAmountOnTotalLine | .plateScan | .clientAfterAnchor => rfl
  | .issuerTaxIdScan => by rw [Override.apply, Override.apply, h.search]

theorem applyOverrides : ∀ (overrides : List (Field × Override)) (e : Extraction),
    Profile.applyOverrides doc settings overrides e =
      Profile.applyOverrides doc settings' overrides e
  | [], _ => rfl
  | (f, o) :: rest, e => by
    rw [Profile.applyOverrides, Profile.applyOverrides, h.override, funext (h.accepts f)]
    simp only [applyOverrides rest]

theorem resolve (p : Profile) : p.resolve doc settings = p.resolve doc settings' := by
  rw [Profile.resolve, Profile.resolve, Mapping.resolve, Mapping.resolve]
  simp only [h.firstValue?]
  exact h.applyOverrides p.overrides _

theorem identify (r : Registry) (source : Option String) :
    r.identify doc source settings = r.identify doc source settings' := by
  rw [Registry.identify, Registry.identify, h.byContent?]

end Settings.Respelled

namespace Pipeline

variable {registry : Registry}

/-- Settings that differ in the spelling of the receiver give the same answer. -/
theorem run_congr_settings (h : settings.Respelled settings') (source : Option String)
    (level : LogLevel) : run ⟨registry, settings, rate⟩ doc source level =
      run ⟨registry, settings', rate⟩ doc source level := by
  have hprofile : ∀ p : Profile, extractWith ⟨registry, settings, rate⟩ p doc source level =
      extractWith ⟨registry, settings', rate⟩ p doc source level := by
    intro p
    rw [extractWith, extractWith, h.resolve, h.scan]
    rfl
  have hextract : extract ⟨registry, settings, rate⟩ doc source level =
      extract ⟨registry, settings', rate⟩ doc source level := by
    rw [extract, extract, h.identify, Heuristics.extract, Heuristics.extract, h.scan]
    simp only [hprofile]
  rw [run, run, hextract]

/-- **The spelling of the receiver does not matter.** Two identifiers of one canonical form, in
whatever case, with whatever separators, with the country or without it, give the same answer for
every registry, document, source and rate, whatever is logged. -/
theorem run_respelled {r r' : String} (h : TaxId.normalize r = TaxId.normalize r')
    (headerLines : Nat) (validated : Bool) (source : Option String) {level : LogLevel} :
    run ⟨registry, ⟨some r, headerLines, validated⟩, rate⟩ doc source level =
      run ⟨registry, ⟨some r', headerLines, validated⟩, rate⟩ doc source level := by
  have hrespelled : Settings.Respelled ⟨some r, headerLines, validated⟩
      ⟨some r', headerLines, validated⟩ := ⟨by rw [Option.map_some, h, Option.map_some], rfl, rfl⟩
  exact run_congr_settings hrespelled source level

/-- A profile that has the receiver's identifier and so is never selected by it. -/
private def ownProfile : Profile := ⟨"propio", [], ["B12345674"], none, .empty, []⟩

/-- An invoice with the identifiers of the issuer and of the receiver. -/
private def addressedInvoice : Document :=
  ⟨["Cliente CIF B-12345674", "CIF A58818501", "Total 12,10"]⟩

/-- The receiver is recognised in small letters, with separators and behind its country as well as
in canonical form. -/
theorem run_respelled_country :
    TaxId.normalize "es b-1.234.567/4" = TaxId.normalize "B12345674" ∧
      run ⟨⟨[ownProfile]⟩, ⟨some "es b-1.234.567/4", 10, true⟩, .general⟩ addressedInvoice none =
        run ⟨⟨[ownProfile]⟩, ⟨some "B12345674", 10, true⟩, .general⟩ addressedInvoice none ∧
      ∃ outcome,
        run ⟨⟨[ownProfile]⟩, ⟨some "B12345674", 10, true⟩, .general⟩ addressedInvoice none =
          .ok (.ok outcome) ∧ outcome.profile = none ∧
          outcome.fields.get? .issuerTaxId = some (.text "A58818501") ∧
          outcome.fields.get? .clientTaxId = some (.text "B12345674") := by
  have hsame : TaxId.normalize "es b-1.234.567/4" = TaxId.normalize "B12345674" := by
    decide +kernel
  refine ⟨hsame, run_respelled hsame 10 true none, ?_⟩
  have hcheck : ((run ⟨⟨[ownProfile]⟩, ⟨some "B12345674", 10, true⟩, .general⟩ addressedInvoice
      none).toOption.any fun answer => answer.toOption.any fun outcome =>
        decide (outcome.profile = none ∧
          outcome.fields.get? .issuerTaxId = some (.text "A58818501") ∧
          outcome.fields.get? .clientTaxId = some (.text "B12345674"))) = true := by
    decide +kernel
  obtain ⟨answer, hrun, hanswer⟩ := exists_eq_ok_of_any hcheck
  obtain ⟨outcome, rfl, houtcome⟩ := exists_eq_ok_of_any hanswer
  exact ⟨outcome, hrun, of_decide_eq_true houtcome⟩

end Pipeline

end InvoiceFields
