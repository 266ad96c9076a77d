import InvoiceFields.Proofs.Decimal.Cents
import InvoiceFields.Proofs.Decimal.Rereading
import InvoiceFields.Proofs.Extraction.Conservation
import InvoiceFields.Proofs.Extraction.Derived

/-!
# What derivation leaves alone

Derivation only adds (`derive_only_adds`): what was resolved stays as it was, and of base, tax and
total those that were open are added where completion finds them, rounded to cents. Unless amounts
are very large, a second derivation finds nothing to add (`derive_derive`): either all three are
resolved, or neither the base nor the total is an amount and nothing was added at all.
-/

namespace InvoiceFields

/-- A text that ends in a point and so many digits. -/
def EndsInFraction (text : String) (places : Nat) : Prop :=
  ∃ whole fraction : List Char, text.toList = whole ++ '.' :: fraction ∧
    fraction.length = places ∧ ∀ c ∈ fraction, Text.isAsciiDigit c = true

/-- A decimal is shown with the digits of its fraction. -/
theorem Decimal.endsInFraction_text {d : Decimal} (h : d.scale ≠ 0) :
    EndsInFraction d.text d.scale := by
  refine ⟨(if d.isNegative then ['-'] else []) ++ d.wholeDigits, d.fractionDigits, ?_,
    d.length_fractionDigits, fun _ => d.isAsciiDigit_of_mem_fractionDigits⟩
  rw [text, String.toList_ofList, chars, if_neg h]

namespace Extraction

variable {e e' : Extraction} {completed : Amounts} {rate : VatRate} {added : List Field}
  {f : Field} {d : Decimal}

/-- The amounts of an extraction stand in three of its fields. -/
theorem amount?_of_member? (h : e.amounts.member? f = some d) :
    f ∈ [Field.base, .tax, .total] ∧ e.amount? f = some d := by
  cases f with
  | base | tax | total => exact ⟨by decide, h⟩
  | _ => exact nomatch h

theorem get?_ne_none_of_amount? (h : e.amount? f = some d) : e.get? f ≠ none := by
  obtain ⟨v, hv, -⟩ := Option.bind_eq_some_iff.mp h
  rw [hv]
  exact Option.some_ne_none v

/-- Nothing is derived where every completed member is resolved. -/
theorem derive_eq_self (hcompleted : e.amounts.complete rate = .ok completed)
    (hresolved : ∀ f d, completed.member? f = some d → e.get? f ≠ none) :
    e.derive rate = .ok (e, []) := by
  refine derive_eq_ok.mpr ⟨completed, hcompleted, fun f => ?_, ?_⟩
  · cases hf : e.get? f with
    | some v => rfl
    | none =>
      have hnone : completed.member? f = none :=
        Option.eq_none_iff_forall_ne_some.mpr fun d hd => hresolved f d hd hf
      rw [derived?, hnone]
      rfl
  · refine (List.filter_eq_nil_iff.mpr fun f _ hf => ?_).symm
    rw [Bool.and_eq_true, Bool.not_eq_true', contains_eq_false, Option.isSome_iff_exists] at hf
    obtain ⟨hopen, d, hd⟩ := hf
    exact hresolved f d hd hopen

/-- Where the base or the total is an amount and none is very large, all three are found. -/
theorem not_isOpen_completed (hle : rate.fraction.value ≤ 1)
    (hsmall : ∀ f d, f ∈ [Field.base, .tax, .total] → e.amount? f = some d → |d.value| ≤ 10 ^ 26)
    (hcompleted : e.amounts.complete rate = .ok completed)
    (hknown : e.amounts.base ≠ none ∨ e.amounts.total ≠ none) : ¬ completed.IsOpen := by
  have hpos := rate.value_pos
  obtain ⟨gross, hgross?, hgross⟩ := VatRate.exists_gross hle
  have hcompletes := (Amounts.complete_eq_ok fun _ => hgross?).mp hcompleted
  have hbound : ∀ f d, e.amounts.member? f = some d → |d.value| ≤ 10 ^ 26 := by
    intro f d hd
    obtain ⟨hf, hd⟩ := amount?_of_member? hd
    exact hsmall f d hf hd
  refine (hcompletes.not_isOpen_iff fun _ => by linarith).mpr ⟨hknown, fun f x hx => ?_⟩
  refine Decimal.not_outOfRange_of_abs_le ?_
  exact (Amounts.abs_le_of_due? hpos hle hgross hbound hx).trans (by norm_num)

/-- Unless amounts are very large, a second derivation adds nothing. -/
theorem derive_derive (hle : rate.fraction.value ≤ 1)
    (hsmall : ∀ f d, f ∈ [Field.base, .tax, .total] → e.amount? f = some d → |d.value| ≤ 10 ^ 26)
    (h : e.derive rate = .ok (e', added)) : e'.derive rate = .ok (e', []) := by
  obtain ⟨gross, hgross, -⟩ := VatRate.exists_gross hle
  obtain ⟨completed, hcompleted, hget, -⟩ := derive_eq_ok.mp h
  have hcompletes := (Amounts.complete_eq_ok fun _ => hgross).mp hcompleted
  by_cases hknown : e.amounts.base ≠ none ∨ e.amounts.total ≠ none
  · -- all three are resolved
    have hfull := not_isOpen_completed hle hsmall hcompleted hknown
    obtain ⟨again, hagain⟩ := Amounts.exists_complete_eq_ok ⟨gross, hgross⟩ e'.amounts
    refine derive_eq_self hagain fun f d hd hopen => hfull ?_
    rw [hget, Option.or_eq_none_iff, derived?, Option.map_eq_none_iff] at hopen
    cases f with
    | base => exact .inl hopen.2
    | tax => exact .inr (.inl hopen.2)
    | total => exact .inr (.inr hopen.2)
    | _ => cases hd
  · -- nothing was added
    rw [not_or, not_ne_iff, not_ne_iff] at hknown
    obtain rfl := hcompletes.eq_known hknown.1 hknown.2
    have hself : e.derive rate = .ok (e, []) :=
      derive_eq_self hcompleted fun f d hd => get?_ne_none_of_amount? (amount?_of_member? hd).2
    obtain ⟨rfl, -⟩ := Prod.mk.inj (Except.ok.inj (h.symm.trans hself))
    exact hself

/-- **Only additions.** Derivation with a rate that can be added to one keeps what is resolved. The
fields that it reports are the new ones, each of them with the completed member rounded to cents,
and with two fraction digits unless it is very large. With a rate of at most one and amounts that
are not very large, a second derivation adds nothing. -/
theorem derive_only_adds (hrate : rate.Addable) (e : Extraction) :
    ∃ completed e' added, e.amounts.complete rate = .ok completed ∧
      e.derive rate = .ok (e', added) ∧ (∀ f v, e.get? f = some v → e'.get? f = some v) ∧
      (∀ f, e.get? f = none → e'.get? f ≠ none → f ∈ [Field.total, .base, .tax]) ∧
      added = [Field.total, .base, .tax].filter (fun f => !e.contains f && e'.contains f) ∧
      (∀ f ∈ added, ∃ d, completed.member? f = some d ∧
        e'.get? f = some (.amount (Amount.toCents d)) ∧
        (Amount.toCents d).value = halfAway (100 * d.value) / 100 ∧
        (|(Amount.toCents d).value| ≤ 10 ^ 26 → EndsInFraction (Amount.toCents d).text 2)) ∧
      (rate.fraction.value ≤ 1 →
        (∀ f d, f ∈ [Field.base, .tax, .total] → e.amount? f = some d → |d.value| ≤ 10 ^ 26) →
        e'.derive rate = .ok (e', [])) := by
  obtain ⟨⟨e', added⟩, hderive⟩ := exists_eq_ok fun _ => derive_ne_error hrate (e := e)
  obtain ⟨completed, hcompleted, hget, hadded⟩ := derive_eq_ok.mp hderive
  have hnew : ∀ f, e.get? f = none → e'.get? f = derived? completed f := by
    intro f hf
    rw [hget, hf, Option.none_or]
  refine ⟨completed, e', added, hcompleted, hderive, ?_, ?_, ?_, ?_,
    fun hle hsmall => derive_derive hle hsmall hderive⟩
  · intro f v hv
    rw [hget, hv, Option.some_or]
  · intro f hf hf'
    rw [hnew f hf] at hf'
    cases f with
    | total | base | tax => decide
    | _ => exact absurd rfl hf'
  · rw [hadded]
    refine List.filter_congr fun f _ => ?_
    cases hf : e.contains f with
    | true => rfl
    | false =>
      rw [contains, hnew f (contains_eq_false.mp hf), derived?, Option.isSome_map]
  · intro f hf
    rw [hadded, List.mem_filter, Bool.and_eq_true, Bool.not_eq_true', contains_eq_false,
      Option.isSome_iff_exists] at hf
    obtain ⟨-, hopen, d, hd⟩ := hf
    refine ⟨d, hd, ?_, Decimal.value_toCents d, fun hle => ?_⟩
    · rw [hnew f hopen, derived?, hd, Option.map_some]
    · have hscale := Decimal.scale_toCents hle
      rw [← hscale]
      exact Decimal.endsInFraction_text (by rw [hscale]; decide)

/-- At 21 %, a total of 100.00 is given its tax, and a text in place of its base stays. -/
theorem derive_only_adds_hundred :
    ∃ e' tax, ((empty.set .total (.amount ⟨10000, 2, by decide, by decide⟩)).set .base
        (.text "n/a")).derive .general = .ok (e', [.tax]) ∧
      e'.get? .base = some (.text "n/a") ∧ e'.get? .tax = some (.amount tax) ∧
      tax.text = "17.36" ∧ e'.derive .general = .ok (e', []) := by
  have hle : VatRate.general.fraction.value ≤ 1 := by norm_num [VatRate.general, Decimal.value]
  obtain ⟨gross, hgross, -⟩ := VatRate.exists_gross hle
  obtain ⟨completed, e', added, -, hderive, hkeeps, -, -, hnew, hagain⟩ := derive_only_adds
    ⟨gross, hgross⟩
    ((empty.set .total (.amount ⟨10000, 2, by decide, by decide⟩)).set .base (.text "n/a"))
  have hcheck : (((empty.set .total (.amount ⟨10000, 2, by decide, by decide⟩)).set .base
      (.text "n/a")).derive .general).toOption.any (fun p => decide (p.2 = [.tax]) &&
        (p.1.amount? .tax).any (·.text = "17.36")) = true := by decide +kernel
  rw [hderive] at hcheck
  simp only [Except.toOption, Option.any_some, Bool.and_eq_true, decide_eq_true_eq] at hcheck
  obtain ⟨rfl, htext⟩ := hcheck
  obtain ⟨d, -, htax, -⟩ := hnew .tax (by decide)
  rw [amount?, htax] at htext
  refine ⟨e', Amount.toCents d, hderive, hkeeps .base _ rfl, htax, of_decide_eq_true htext,
    hagain hle fun f d _ hd => ?_⟩
  cases f with
  | total =>
    obtain rfl := Option.some.inj hd
    norm_num [Decimal.value]
  | _ => cases hd

end Extraction

end InvoiceFields
