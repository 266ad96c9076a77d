import InvoiceFields.Proofs.Extraction.Balance

/-!
# From the base to the total and back

A base of whole cents is found again in its total rounded to cents (`exists_base_of_total`).
Rounding moves the total by at most half a cent, and dividing by more than one makes that less than
half a cent, by more than the division is off.
-/

namespace InvoiceFields

open Decimal (IsCents)

variable {rate : VatRate} {b base total gross : Decimal} {x y : ℚ} {n : Int}

/-- A rate with four decimals is not less than the last of them. -/
theorem VatRate.ten_thousandth_le_value {k : Int} (hk : rate.fraction.value * 10 ^ 4 = k) :
    1 / 10 ^ 4 ≤ rate.fraction.value := by
  have hpos := rate.value_pos
  have hk0 : (0 : ℚ) < k := hk ▸ by positivity
  have hk1 : (1 : ℚ) ≤ k := by exact_mod_cast hk0
  linarith

/-- What is off by a half is off by less behind a division. -/
theorem abs_div_sub_le (hy : 1 + 1 / 10 ^ 4 ≤ y) (h : |x - n * y| ≤ 1 / 2) :
    |x / y - n| ≤ 1 / 2 - 1 / 10 ^ 5 := by
  have hpos : 0 < y := lt_of_lt_of_le (by norm_num) hy
  have hsub : x / y - n = (x - n * y) / y := by
    rw [sub_div, mul_div_cancel_right₀ _ hpos.ne']
  calc |x / y - n| = |x - n * y| / y := by rw [hsub, abs_div, abs_of_pos hpos]
    _ ≤ 1 / 2 / (1 + 1 / 10 ^ 4) := div_le_div₀ (by norm_num) h (by norm_num) hy
    _ ≤ 1 / 2 - 1 / 10 ^ 5 := by norm_num

/-- The base in the rounded total of whole cents is closer than half a cent to them. -/
theorem abs_div?_sub_lt (hleast : 1 + 1 / 10 ^ 4 ≤ gross.value) (hn : 100 * b.value = n)
    (hble : |b.value| ≤ 10 ^ 15) (htotal : total.value = b.value * gross.value)
    (hbase : (Amount.toCents total).div? gross = some base) :
    |100 * base.value - n| < 1 / 2 := by
  have hround : |100 * (Amount.toCents total).value - n * gross.value| ≤ 1 / 2 := by
    have hnear := abs_halfAway_sub_le (100 * total.value)
    rwa [Decimal.value_toCents, mul_div_cancel₀ _ (by norm_num), ← hn, mul_assoc, ← htotal]
  have hquotient := abs_div_sub_le hleast hround
  rw [mul_div_assoc] at hquotient
  -- one more digit in front of the point covers what rounding may add to the base
  have hshort : |(Amount.toCents total).value / gross.value| ≤ 10 ^ 16 := by
    have hle := abs_le.mp hble
    have hquotient := abs_le.mp hquotient
    rw [abs_le]
    constructor <;> linarith [hle.1, hle.2, hquotient.1, hquotient.2]
  have hclose : |base.value - (Amount.toCents total).value / gross.value| ≤ 1 / 2 / 10 ^ 12 := by
    rcases Decimal.eq_or_close_of_div? hbase hshort with heq | hclose
    · rw [heq, sub_self, abs_zero]
      positivity
    · exact hclose
  generalize (Amount.toCents total).value / gross.value = x at hquotient hclose
  have hquotient := abs_le.mp hquotient
  have hclose := abs_le.mp hclose
  rw [abs_lt]
  constructor <;> linarith [hquotient.1, hquotient.2, hclose.1, hclose.2]

/-- **Round trip.** The total of a base of whole cents is found, and the base that is found in it
after it has been rounded to cents is, rounded to cents, the base it was found for. -/
theorem exists_base_of_total (hle : rate.fraction.value ≤ 1)
    (hdigits : ∃ k : Int, rate.fraction.value * 10 ^ 4 = k) (hb : b.IsCents)
    (hble : |b.value| ≤ 10 ^ 15) :
    ∃ total tax base : Decimal, totalAndTax b rate = .ok (some total, some tax) ∧
      baseFromTotal (Amount.toCents total) rate = .ok (some base) ∧
      (Amount.toCents base).value = b.value := by
  obtain ⟨k, hk⟩ := hdigits
  have hleast := VatRate.ten_thousandth_le_value hk
  obtain ⟨gross, hgross?, hgross⟩ := VatRate.exists_gross hle
  obtain ⟨total, tax, htotal, htax, hvalue, -⟩ := exists_mul?_total_tax hle hk hgross hb hble
  obtain ⟨base, hbase⟩ :=
    Decimal.exists_div?_of_one_le (by linarith : 1 ≤ gross.value) (Amount.toCents total)
  obtain ⟨n, hn⟩ := hb
  rw [← hgross] at hvalue
  have hnear := abs_div?_sub_lt (by linarith) hn hble hvalue hbase
  refine ⟨total, tax, base, totalAndTax_eq_ok.mpr ⟨gross, hgross?, by rw [htotal, htax]⟩,
    baseFromTotal_eq_ok.mpr ⟨gross, hgross?, hbase⟩, ?_⟩
  rw [Decimal.value_toCents, halfAway_eq_of_abs_sub_lt hnear, ← hn,
    mul_div_cancel_left₀ _ (by norm_num)]

/-- At 21 %, a cent owed is found again in its total, which is a cent too. -/
theorem exists_base_of_total_cent :
    ∃ total tax base : Decimal,
      totalAndTax ⟨-1, 2, by decide, by decide⟩ .general = .ok (some total, some tax) ∧
        (Amount.toCents total).text = "-0.01" ∧
        baseFromTotal (Amount.toCents total) .general = .ok (some base) ∧
        (Amount.toCents base).value = -1 / 100 := by
  have hrate : VatRate.general.fraction.value = 21 / 100 := by
    norm_num [VatRate.general, Decimal.value]
  have hcent : Decimal.value ⟨-1, 2, by decide, by decide⟩ = -1 / 100 := by norm_num [Decimal.value]
  have hle : VatRate.general.fraction.value ≤ 1 := by
    rw [hrate]
    norm_num
  have hb : Decimal.IsCents ⟨-1, 2, by decide, by decide⟩ :=
    Decimal.isCents_of_scale_le (by decide)
  have hble : |Decimal.value ⟨-1, 2, by decide, by decide⟩| ≤ 10 ^ 15 := by
    rw [hcent]
    norm_num
  obtain ⟨total, tax, base, htotal, hbase, hvalue⟩ :=
    exists_base_of_total hle ⟨2100, by rw [hrate]; norm_num⟩ hb hble
  have hcheck : (totalAndTax ⟨-1, 2, by decide, by decide⟩ .general).toOption.any
      (fun p => p.1.any fun total => (Amount.toCents total).text = "-0.01") = true := by
    decide +kernel
  rw [htotal] at hcheck
  exact ⟨total, tax, base, htotal, of_decide_eq_true hcheck, hbase, hvalue.trans hcent⟩

end InvoiceFields
