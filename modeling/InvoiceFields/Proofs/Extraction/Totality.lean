import InvoiceFields.Proofs.Extraction.Due

/-!
# Where derivation answers

The operations on base, tax and total answer for every rate but the largest decimal, which cannot be
added to one, and even then where the rate is not needed. A member of the answer is open only where
nothing determines it or where it is out of range (`derivation_answers_iff`). A rate from a text or
from a percentage is never too large.
-/

namespace InvoiceFields

open Decimal (OutOfRange)

variable {rate : VatRate} {gross : Decimal}

/-! ### Operations that need the rate -/

theorem exists_baseFromTotal_iff (total : Decimal) :
    (∃ base, baseFromTotal total rate = .ok base) ↔ rate.Addable := by
  simp only [baseFromTotal_eq_ok, VatRate.Addable]
  constructor
  · rintro ⟨_, gross, h, -⟩
    exact ⟨gross, h⟩
  · rintro ⟨gross, h⟩
    exact ⟨_, gross, h, rfl⟩

theorem exists_totalAndTax_iff (base : Decimal) :
    (∃ both, totalAndTax base rate = .ok both) ↔ rate.Addable := by
  simp only [totalAndTax_eq_ok, VatRate.Addable]
  constructor
  · rintro ⟨_, gross, h, -⟩
    exact ⟨gross, h⟩
  · rintro ⟨gross, h⟩
    exact ⟨_, gross, h, rfl⟩

/-- A base is found in every total. -/
theorem baseFromTotal_ne_none {total : Decimal} {base : Option Decimal}
    (h : baseFromTotal total rate = .ok base) : base ≠ none := by
  obtain ⟨gross, hgross, rfl⟩ := baseFromTotal_eq_ok.mp h
  obtain ⟨d, hd⟩ := Decimal.exists_div?_of_one_le (VatRate.one_le_gross hgross) total
  rw [hd]
  exact Option.some_ne_none d

/-- The total and the tax of a base are missing where they are out of range. -/
theorem totalAndTax_eq_none {base : Decimal} {total tax : Option Decimal}
    (hgross : rate.gross = .ok gross) (h : totalAndTax base rate = .ok (total, tax)) :
    (total = none ↔ OutOfRange (base.value * gross.value)) ∧
      (tax = none ↔ OutOfRange (base.value * rate.fraction.value)) := by
  obtain ⟨gross', hgross', h⟩ := totalAndTax_eq_ok.mp h
  obtain rfl : gross' = gross := Except.ok.inj (hgross'.symm.trans hgross)
  obtain ⟨rfl, rfl⟩ := Prod.mk.inj h
  exact ⟨Decimal.mul?_eq_none, Decimal.mul?_eq_none⟩

/-- Completion answers where the rate can be added to one or is not needed. -/
theorem Amounts.exists_complete_iff {known : Amounts} :
    (∃ completed, known.complete rate = .ok completed) ↔ (known.NeedsRate → rate.Addable) := by
  constructor
  · rintro ⟨completed, h⟩ hneeds
    rw [VatRate.addable_iff]
    intro heq
    have hfail : known.complete rate = .error .outOfRange :=
      complete_eq_error.mpr ⟨hneeds, VatRate.gross_eq_error.mpr ⟨rfl, heq⟩⟩
    rw [h] at hfail
    exact nomatch hfail
  · intro hadd
    refine exists_eq_ok fun fault hfail => ?_
    obtain ⟨hneeds, hgross⟩ := complete_eq_error.mp hfail
    obtain ⟨gross, hok⟩ := hadd hneeds
    rw [hok] at hgross
    exact nomatch hgross

/-! ### All operations -/

/-- **Answers of derivation.** Every rate is accepted as a fraction. It can be added to one unless
it is the largest decimal, and shown where its hundredfold is in range; what was read or is a
percentage meets both. Completion answers where the rate can be added to one or is not needed. It
keeps what is known, and leaves open what is out of range. -/
theorem derivation_answers_iff (rate : VatRate) :
    VatRate.ofFraction rate.fraction = .ok rate ∧
    ((∃ gross, rate.gross = .ok gross) ↔ rate.fraction ≠ .greatest) ∧
    ((∃ text, rate.shown = .ok text) ↔ ¬ OutOfRange (rate.fraction.value * 100)) ∧
    ((∃ s, VatRate.read s = .ok rate) ∨ (∃ percent, VatRate.ofPercent percent = .ok rate) →
      rate.fraction ≠ .greatest ∧ ¬ OutOfRange (rate.fraction.value * 100)) ∧
    (∀ total, (∃ base, baseFromTotal total rate = .ok base) ↔ rate.fraction ≠ .greatest) ∧
    (∀ base, (∃ both, totalAndTax base rate = .ok both) ↔ rate.fraction ≠ .greatest) ∧
    (∀ known : Amounts, (∃ completed, known.complete rate = .ok completed) ↔
      (known.NeedsRate → rate.fraction ≠ .greatest)) ∧
    ∀ gross, (rate.fraction ≠ .greatest → rate.gross = .ok gross) →
      (∀ total base, baseFromTotal total rate = .ok base → base ≠ none) ∧
      (∀ base total tax, totalAndTax base rate = .ok (total, tax) →
        (total = none ↔ OutOfRange (base.value * gross.value)) ∧
        (tax = none ↔ OutOfRange (base.value * rate.fraction.value))) ∧
      ∀ known completed : Amounts, known.complete rate = .ok completed →
        (∀ f d, known.member? f = some d → completed.member? f = some d) ∧
        ∀ f, completed.member? f = none ↔
          ∀ x, known.due? rate.fraction.value gross.value f = some x → OutOfRange x := by
  -- the largest decimal is named in the statement only
  rw [← VatRate.addable_iff]
  refine ⟨rate.ofFraction_fraction, Iff.rfl, VatRate.exists_shown_iff, ?_,
    exists_baseFromTotal_iff, exists_totalAndTax_iff, fun known => Amounts.exists_complete_iff, ?_⟩
  · intro h
    have hin : ¬ OutOfRange (rate.fraction.value * 100) := by
      rcases h with ⟨s, h⟩ | ⟨percent, h⟩
      · exact VatRate.hundredfold_of_read h
      · exact VatRate.hundredfold_of_ofPercent h
    exact ⟨VatRate.addable_of_hundredfold hin, hin⟩
  · intro gross hgross
    refine ⟨fun _ _ => baseFromTotal_ne_none, fun base total tax h => ?_,
      fun known completed h => ?_⟩
    · exact totalAndTax_eq_none (hgross ((exists_totalAndTax_iff base).mp ⟨_, h⟩)) h
    · have hneeds := fun hneeds => hgross (Amounts.exists_complete_iff.mp ⟨completed, h⟩ hneeds)
      have hcompletes := (Amounts.complete_eq_ok hneeds).mp h
      exact ⟨fun f d => hcompletes.keeps,
        fun f => hcompletes.member?_eq_none fun h => VatRate.one_le_gross (hneeds h)⟩

/-- At 21 %, nothing stays open beside a total of 121.00. -/
theorem derivation_answers_general :
    VatRate.general.shown = .ok "21%" ∧
      ∃ completed, (⟨none, none, some ⟨12100, 2, by decide, by decide⟩⟩ : Amounts).complete
        .general = .ok completed ∧ completed.base ≠ none ∧ completed.tax ≠ none ∧
          completed.total = some ⟨12100, 2, by decide, by decide⟩ := by
  obtain ⟨-, -, -, -, -, -, hcomplete, hanswer⟩ := derivation_answers_iff .general
  have hrate : VatRate.general.fraction.value = 21 / 100 := by
    norm_num [VatRate.general, Decimal.value]
  obtain ⟨gross, hgross, hvalue⟩ := VatRate.exists_gross (by rw [hrate]; norm_num)
  obtain ⟨completed, hcompleted⟩ :=
    (hcomplete ⟨none, none, some ⟨12100, 2, by decide, by decide⟩⟩).mpr fun _ => by decide
  obtain ⟨hkeeps, hopen⟩ := (hanswer gross fun _ => hgross).2.2 _ completed hcompleted
  have htotal : Decimal.value ⟨12100, 2, by decide, by decide⟩ = 121 := by norm_num [Decimal.value]
  have hbase : ¬ OutOfRange (121 / gross.value) :=
    Decimal.not_outOfRange_of_abs_le (by norm_num [hvalue, hrate])
  have htax : ¬ OutOfRange (121 - 121 / gross.value) :=
    Decimal.not_outOfRange_of_abs_le (by norm_num [hvalue, hrate])
  rw [← htotal] at hbase htax
  exact ⟨by decide +kernel, completed, hcompleted, fun h => hbase ((hopen .base).mp h _ rfl),
    fun h => htax ((hopen .tax).mp h _ rfl), hkeeps .total _ rfl⟩

/-- The largest decimal is accepted as a rate, but nothing is derived from it, and it is not
shown. -/
theorem exists_rate_without_answer :
    ∃ rate, VatRate.ofFraction .greatest = .ok rate ∧ rate.gross = .error .outOfRange ∧
      rate.shown = .error .outOfRange ∧ (∀ total, baseFromTotal total rate = .error .outOfRange) ∧
      (∀ base, totalAndTax base rate = .error .outOfRange) ∧
      (⟨some .one, none, none⟩ : Amounts).complete rate = .error .outOfRange := by
  have hgross : VatRate.gross ⟨.greatest, by decide⟩ = .error .outOfRange := by decide +kernel
  refine ⟨⟨.greatest, by decide⟩, rfl, hgross, by decide +kernel, fun total => ?_, fun base => ?_,
    by decide +kernel⟩
  · rw [baseFromTotal, hgross]
    rfl
  · rw [totalAndTax, hgross]
    rfl

end InvoiceFields
