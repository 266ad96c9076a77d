import InvoiceFields.Proofs.Extraction.Due

/-!
# Completed amounts add up

Before anything is rounded to cents, completion keeps base and tax equal to the total: what is due
adds up, and a total alone is split so that the rest behind its base is exact
(`complete_conserves`). All three amounts are found where the base or the total is known, unless one
of them is out of range.
-/

namespace InvoiceFields.Amounts

open Decimal (IsPart OutOfRange Representable)

variable {known completed : Amounts} {rate : VatRate} {r gross b t s : Decimal}

/-- Nothing stays open where the base or the total is known and what is due is in range. -/
theorem Completes.not_isOpen_iff (h : Completes r gross known completed)
    (hone : known.NeedsRate → 1 ≤ gross.value) :
    ¬ completed.IsOpen ↔ (known.base ≠ none ∨ known.total ≠ none) ∧
      ∀ f x, known.due? r.value gross.value f = some x → ¬ OutOfRange x := by
  have hnone := fun f => h.member?_eq_none hone (f := f)
  constructor
  · intro hfull
    constructor
    · by_contra hunknown
      rw [not_or, not_ne_iff, not_ne_iff] at hunknown
      exact hfull (.inl ((hnone .base).mpr fun x hx => by simp [due?, hunknown] at hx))
    · intro f x hx hout
      have hf : completed.member? f = none := (hnone f).mpr fun y hy => by
        rwa [← Option.some.inj (hx.symm.trans hy)]
      cases f with
      | base => exact hfull (.inl hf)
      | tax => exact hfull (.inr (.inl hf))
      | total => exact hfull (.inr (.inr hf))
      | _ => cases hx
  · rintro ⟨hknown, hin⟩
    have hfound : ∀ {f}, f = .base ∨ f = .tax ∨ f = .total → completed.member? f ≠ none := by
      intro f hf hopen
      obtain ⟨x, hx⟩ := exists_due? hknown hf
      exact hin f x hx ((hnone f).mp hopen x hx)
    rintro (hb | ht | hs)
    · exact hfound (.inl rfl) hb
    · exact hfound (.inr (.inl rfl)) ht
    · exact hfound (.inr (.inr rfl)) hs

/-- Base and tax make the total up where what is due is a decimal, and always where the total is
known alone. -/
theorem Completes.balanced (h : Completes r gross known ⟨some b, some t, some s⟩)
    (hgross : gross.value = 1 + r.value) (hpos : 0 < r.value) (hle : r.value ≤ 1)
    (hopen : known.IsOpen) (hfit : known.base ≠ none ∨ known.tax ≠ none →
      ∀ f x, known.due? r.value gross.value f = some x → Representable x) :
    b.value + t.value = s.value := by
  by_cases hparts : known.base ≠ none ∨ known.tax ≠ none
  · have hdue : ∀ f, ((⟨some b, some t, some s⟩ : Amounts).member? f).map Decimal.value =
        known.due? r.value gross.value f := fun f =>
      (h.meets (hparts.imp_right .inl) f).map_value (hfit hparts f)
    exact h.due?_balanced hgross hopen (hdue .base).symm (hdue .tax).symm (hdue .total).symm
  · obtain ⟨base, tax, total⟩ := known
    rw [not_or, not_ne_iff, not_ne_iff] at hparts
    obtain ⟨rfl, rfl⟩ := hparts
    cases total with
    | none => exact nomatch h
    | some s' =>
      obtain ⟨b', t', hparts, hsum, -⟩ := h.exists_parts (by linarith) (by linarith)
      cases hparts
      exact hsum

/-- **Conservation.** Completion with a rate of at most one answers and keeps what is known. Where
all three amounts are found and what is due is a decimal, base and tax make the total up. A total
alone falls into two parts that make it up, whatever was rounded. All three are found where the base
or the total is known and nothing is out of range, and without them nothing is added. -/
theorem complete_conserves (hle : rate.fraction.value ≤ 1) (hopen : known.IsOpen) :
    ∃ completed, known.complete rate = .ok completed ∧
      (∀ f d, known.member? f = some d → completed.member? f = some d) ∧
      (∀ b t s : Decimal, completed = ⟨some b, some t, some s⟩ →
        (known.base ≠ none ∨ known.tax ≠ none → ∀ f x,
          known.due? rate.fraction.value (1 + rate.fraction.value) f = some x → Representable x) →
        b.value + t.value = s.value) ∧
      (∀ s, known = ⟨none, none, some s⟩ → ∃ b t : Decimal,
        completed = ⟨some b, some t, some s⟩ ∧ b.value + t.value = s.value ∧
          IsPart b.value s.value ∧ IsPart t.value s.value) ∧
      (¬ completed.IsOpen ↔ (known.base ≠ none ∨ known.total ≠ none) ∧ ∀ f x,
        known.due? rate.fraction.value (1 + rate.fraction.value) f = some x → ¬ OutOfRange x) ∧
      (known.base = none → known.total = none → completed = known) := by
  have hpos := rate.value_pos
  obtain ⟨gross, hgross?, hgross⟩ := VatRate.exists_gross hle
  obtain ⟨completed, hcompleted⟩ := exists_complete_eq_ok ⟨gross, hgross?⟩ known
  have h := (complete_eq_ok fun _ => hgross?).mp hcompleted
  rw [← hgross]
  refine ⟨completed, hcompleted, fun f d => h.keeps, ?_, ?_, h.not_isOpen_iff fun _ => ?_,
    h.eq_known⟩
  · rintro b t s rfl hfit
    exact h.balanced hgross hpos hle hopen hfit
  · rintro s rfl
    exact h.exists_parts (by linarith) (by linarith)
  · linarith

/-- At the least rate, the largest total falls into two whole numbers. -/
theorem complete_conserves_greatest :
    ∃ b t : Decimal, (⟨none, none, some .greatest⟩ : Amounts).complete
        ⟨⟨1, 28, by decide, by decide⟩, by decide⟩ = .ok ⟨some b, some t, some .greatest⟩ ∧
      b.text = "79228162514264337593543950327" ∧ t.text = "8" ∧
      b.value + t.value = Decimal.greatest.value := by
  have hle : (⟨⟨1, 28, by decide, by decide⟩, by decide⟩ : VatRate).fraction.value ≤ 1 := by
    norm_num [Decimal.value]
  have hopen : (⟨none, none, some .greatest⟩ : Amounts).IsOpen := .inl rfl
  obtain ⟨completed, hcompleted, -, -, hparts, -⟩ := complete_conserves hle hopen
  obtain ⟨b, t, rfl, hsum, -⟩ := hparts .greatest rfl
  have hcheck : ((⟨none, none, some .greatest⟩ : Amounts).complete
      ⟨⟨1, 28, by decide, by decide⟩, by decide⟩).toOption.any (fun completed =>
        completed.base.any (·.text = "79228162514264337593543950327") &&
          completed.tax.any (·.text = "8")) = true := by decide +kernel
  rw [hcompleted] at hcheck
  simp only [Except.toOption, Option.any_some, Bool.and_eq_true, decide_eq_true_eq] at hcheck
  exact ⟨b, t, hcompleted, hcheck.1, hcheck.2, hsum⟩

end InvoiceFields.Amounts
