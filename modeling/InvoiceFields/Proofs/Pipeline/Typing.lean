import InvoiceFields.Proofs.Pipeline.Provenance
import InvoiceFields.Proofs.Profile.Building
import InvoiceFields.Proofs.Registry.Selection

/-!
# When a result is typed

Attempts, heuristics and derivation put amounts into monetary fields and texts into all others. An
override does not look at its field: it puts what it finds into whatever field a profile names. So
a result is typed exactly when the overrides of the selected profile find values of the right kind
(`forall_holds_iff`), which is certain where each override has a field of its kind, and which fails
where a profile fills its total by the scan for plates (`exists_text_total`).
-/

namespace InvoiceFields

/-! ### Overrides -/

/-- Whether an override finds amounts. All others find texts. -/
def Override.findsAmount (o : Override) : Bool := o == .lastAmountOnTotalLine

theorem Override.isSome_amount? {doc : Document} {settings : Settings} {o : Override}
    {v : FieldValue} (h : o.apply doc settings = .ok (some v)) :
    v.amount?.isSome = o.findsAmount := by
  cases o with
  | lastAmountOnTotalLine =>
    obtain ⟨d, -, rfl⟩ := Option.map_eq_some_iff.mp (Except.ok.inj h)
    rfl
  | issuerTaxIdScan =>
    obtain ⟨id, -, h⟩ := bind_eq_ok.mp h
    obtain ⟨s, -, rfl⟩ := Option.map_eq_some_iff.mp (pure_eq_ok.mp h)
    rfl
  | _ =>
    obtain ⟨s, -, rfl⟩ := Option.map_eq_some_iff.mp (Except.ok.inj h)
    rfl

namespace Pipeline

variable {p : Pipeline} {doc : Document} {source : Option String} {level : LogLevel}
variable {e : Extraction} {answer : Except Failure Outcome}

/-- Every acceptable value that an override of the selected profile finds is of the kind that its
field holds. -/
def OverridesHold (p : Pipeline) (doc : Document) (source : Option String) : Prop :=
  ∀ profile f o v, p.registry.identify doc source p.settings = .ok (some profile) →
    (f, o) ∈ profile.overrides → o.apply doc p.settings = .ok (some v) →
      p.settings.accepts f v = true → f.Holds v

/-- Overrides of the right kind keep a result typed. -/
theorem holds_of_overridesHold (h : OverridesHold p doc source)
    (hrun : p.run doc source level = .ok answer) (he : reported? answer = some e) :
    e.Forall Field.Holds := by
  obtain ⟨outcome, hextracted, -, rfl⟩ := exists_extracted_of_reported hrun he
  refine hextracted.forall_fields (fun profile found hselected hfound => ?_)
    (fun _ => Heuristics.holds_of_scan) (fun _ _ => Field.holds_amount.mpr)
  exact Profile.forall_resolve (fun _ _ _ => Attempt.holds_of_value?)
    (fun f o v => h profile f o v hselected) hfound

/-- What an override finds stays in the result. -/
theorem overridesHold_of_holds (hbuilt : p.registry.Built)
    (hrun : p.run doc source level = .ok answer) (he : reported? answer = some e)
    (h : e.Forall Field.Holds) : OverridesHold p doc source := by
  intro profile f o v hselected ho hfound haccepts
  obtain ⟨outcome, hextracted, -, rfl⟩ := exists_extracted_of_reported hrun he
  cases hextracted with
  | byHeuristics hunselected => exact nomatch hselected.symm.trans hunselected
  | @byProfile profile' found heuristic fields completed fallback hselected' hresolved hscan
      hderived hvalues =>
    obtain rfl : profile = profile' :=
      Option.some.inj (Except.ok.inj (hselected.symm.trans hselected'))
    -- a built profile has one override for the field, so no later one replaces the value
    have hnodup := (hbuilt.profile (Registry.mem_of_identify hselected)).nodup_overrides
    refine h f v ?_
    rw [hvalues, Profile.get?_resolve hnodup hresolved ho hfound haccepts, Option.some_or]

/-- Overrides that are declared for fields of their kind find values of that kind. -/
theorem overridesHold_of_declared
    (h : ∀ profile ∈ p.registry.profiles, ∀ f o, (f, o) ∈ profile.overrides →
      f.isMonetary = o.findsAmount) : OverridesHold p doc source :=
  fun profile f o _ hselected ho hfound _ =>
    (Override.isSome_amount? hfound).trans
      (h profile (Registry.mem_of_identify hselected) f o ho).symm

/-- A typed result has an amount for its base or its total. -/
theorem exists_amount_of_holds {outcome : Outcome}
    (hrun : p.run doc source level = .ok (.ok outcome)) (h : outcome.fields.Forall Field.Holds) :
    (outcome.fields.amount? .base).isSome = true ∨
      (outcome.fields.amount? .total).isSome = true := by
  have hamount : ∀ f, f.isMonetary = true → outcome.fields.get? f ≠ none →
      (outcome.fields.amount? f).isSome = true := by
    intro f hf hne
    obtain ⟨v, hv⟩ := Option.ne_none_iff_exists'.mp hne
    rw [Extraction.amount?, hv, Option.bind_some]
    exact (h f v hv).trans hf
  obtain ⟨outcome', -, hconcluded, heq⟩ := exists_extracted_of_reported hrun rfl
  cases hconcluded with
  | ok htotals => exact htotals.imp (hamount .base rfl) (hamount .total rfl)

/-- **Typing.** With rules in JSON, what an answer reports has amounts in monetary fields and texts
in all others exactly when the overrides of the selected profile find such values. They do if each
of them is declared for a field of its kind; a result then has an amount for its base or total. -/
theorem forall_holds_iff {text : String} (hrules : Registry.ofText text = .ok p.registry)
    (hrun : p.run doc source level = .ok answer) (he : reported? answer = some e) :
    (e.Forall Field.Holds ↔ OverridesHold p doc source) ∧
    ((∀ profile ∈ p.registry.profiles, ∀ f o, (f, o) ∈ profile.overrides →
      f.isMonetary = o.findsAmount) → OverridesHold p doc source) ∧
    (OverridesHold p doc source → ∀ outcome, answer = .ok outcome →
      (outcome.fields.amount? .base).isSome = true ∨
        (outcome.fields.amount? .total).isSome = true) := by
  have hbuilt := Registry.built_of_ofText hrules
  refine ⟨⟨overridesHold_of_holds hbuilt hrun he, fun h => holds_of_overridesHold h hrun he⟩,
    overridesHold_of_declared, ?_⟩
  rintro h outcome rfl
  obtain rfl : outcome.fields = e := Option.some.inj he
  exact exists_amount_of_holds hrun (holds_of_overridesHold h hrun he)

/-- Rules for one profile, whose total is filled by an override. -/
private def totalRules (o : Override) : String :=
  "\x7b\"profiles\":[\x7b\"name\":\"norte\",\"keywords\":[\"norte\"]," ++
    "\"overrides\":\x7b\"total\":\"" ++ o.name ++ "\"\x7d\x7d]\x7d"

/-- A pipeline with that profile. -/
private def totalPipeline (o : Override) : Pipeline where
  registry := ⟨[⟨"norte", ["norte"], [], none, .empty, [(.total, o)]⟩]⟩
  settings := .standard
  rate := .general

private theorem ofText_totalRules (o : Override) :
    Registry.ofText (totalRules o) = .ok (totalPipeline o).registry := by
  apply eq_ok_of_toOption
  cases o <;> decide +kernel

/-- A total that is read off a total line is an amount. -/
theorem forall_holds_total_line :
    ∃ outcome, (totalPipeline .lastAmountOnTotalLine).run ⟨["Total 12,10"]⟩ (some "norte.txt") =
        .ok (.ok outcome) ∧
      (outcome.fields.amount? .total).map (·.text) = some "12.10" ∧
      outcome.fields.Forall Field.Holds := by
  have hcheck : (((totalPipeline .lastAmountOnTotalLine).run ⟨["Total 12,10"]⟩
      (some "norte.txt")).toOption.any fun answer => answer.toOption.any fun outcome =>
        decide ((outcome.fields.amount? .total).map (·.text) = some "12.10")) = true := by
    decide +kernel
  obtain ⟨answer, hrun, hanswer⟩ := exists_eq_ok_of_any hcheck
  obtain ⟨outcome, rfl, htotal⟩ := exists_eq_ok_of_any hanswer
  obtain ⟨hiff, hdeclared, -⟩ := forall_holds_iff (ofText_totalRules _) hrun rfl
  refine ⟨outcome, hrun, of_decide_eq_true htotal, hiff.mpr (hdeclared ?_)⟩
  intro profile hprofile f o ho
  cases List.mem_singleton.mp hprofile
  cases List.mem_singleton.mp ho
  rfl

/-- A plate that is taken for the total is a text, and nothing else is numeric. -/
theorem exists_text_total :
    ∃ outcome, Registry.ofText (totalRules .plateScan) = .ok (totalPipeline .plateScan).registry ∧
      (totalPipeline .plateScan).run ⟨["1234 BCD"]⟩ (some "norte.txt") = .ok (.ok outcome) ∧
      outcome.fields.get? .total = some (.text "1234BCD") ∧
      outcome.fields.amount? .base = none ∧ outcome.fields.amount? .total = none ∧
      ¬ outcome.fields.Forall Field.Holds := by
  have hcheck : (((totalPipeline .plateScan).run ⟨["1234 BCD"]⟩ (some "norte.txt")).toOption.any
      fun answer => answer.toOption.any fun outcome =>
        decide (outcome.fields.get? .total = some (.text "1234BCD") ∧
          outcome.fields.amount? .base = none)) = true := by decide +kernel
  obtain ⟨answer, hrun, hanswer⟩ := exists_eq_ok_of_any hcheck
  obtain ⟨outcome, rfl, houtcome⟩ := exists_eq_ok_of_any hanswer
  obtain ⟨htotal, hbase⟩ := of_decide_eq_true houtcome
  refine ⟨outcome, ofText_totalRules _, hrun, htotal, hbase, ?_, fun h => ?_⟩
  · rw [Extraction.amount?, htotal]
    rfl
  · exact nomatch h .total _ htotal

end Pipeline

end InvoiceFields
