import InvoiceFields.Proofs.Decimal.Part
import InvoiceFields.Proofs.Extraction.Completion

/-!
# Which rates can be used

A rate is used by adding it to one, and it is shown a hundredfold. Every rate but the largest
decimal can be added to one (`addable_iff`), and a rate can be shown where the hundredfold is in
range (`exists_shown_iff`). A percentage meets both conditions, and so does every rate that is read
from a text (`hundredfold_of_ofPercent`, `hundredfold_of_read`).
-/

namespace InvoiceFields

open Decimal (OutOfRange Representable)

/-! ### Decimals -/

namespace Decimal

variable {a b : Decimal}

/-- The largest decimal. -/
def greatest : Decimal := ⟨79228162514264337593543950335, 0, by decide, zero.scale_le⟩

@[simp]
theorem value_hundred : hundred.value = 100 := by simp [value, hundred]

theorem value_greatest : greatest.value = 2 ^ 96 - 1 := by norm_num [value, greatest]

/-- A decimal with a digit behind the point has a digit less in front of it. -/
theorem abs_value_le_of_scale_ne_zero (h : a.scale ≠ 0) : |a.value| ≤ (2 ^ 96 - 1) / 10 := by
  have hten : (10 : ℚ) ≤ 10 ^ a.scale := by
    calc (10 : ℚ) = 10 ^ 1 := (pow_one _).symm
      _ ≤ 10 ^ a.scale := pow_le_pow_right₀ (by norm_num) (Nat.pos_of_ne_zero h)
  rw [value, abs_div, abs_of_pos (by positivity : (0 : ℚ) < 10 ^ a.scale)]
  exact div_le_div₀ (by norm_num) a.abs_coefficient_le (by norm_num) hten

/-- Only the largest decimal is less than one and a half from the end of the range. -/
theorem eq_greatest_of_le (h : 2 ^ 96 - 3 / 2 ≤ a.value) : a = greatest := by
  have hscale : a.scale = 0 := by
    by_contra hne
    have hle := (le_abs_self _).trans (abs_value_le_of_scale_ne_zero hne)
    norm_num at h hle
    linarith
  have hcoefficient : a.coefficient = 79228162514264337593543950335 := by
    have hlt : (79228162514264337593543950334 : ℚ) < a.coefficient := by
      rw [value, hscale, pow_zero, div_one] at h
      norm_num at h
      linarith
    have hlt' : 79228162514264337593543950334 < a.coefficient := by exact_mod_cast hlt
    have hmagnitude := a.coefficient_lt
    rw [twoTo_ninetySix] at hmagnitude
    omega
  obtain ⟨coefficient, scale, hcoefficient_lt, hscale_le⟩ := a
  subst hscale hcoefficient
  rfl

/-- The order of decimals is that of the numbers they stand for. -/
theorem compareValue_eq_lt : compareValue a b = .lt ↔ a.value < b.value := by
  have hpow : ∀ k : Nat, (0 : ℚ) < 10 ^ k := fun k => by positivity
  rw [compareValue, compare_lt_iff_lt, value, value, div_lt_div_iff₀ (hpow _) (hpow _),
    ← Int.cast_lt (R := ℚ)]
  push_cast
  rw [cast_tenTo, cast_tenTo]

end Decimal

namespace VatRate

variable {rate : VatRate} {gross d : Decimal} {s : String} {percent : UInt32}

theorem value_pos (rate : VatRate) : 0 < rate.fraction.value :=
  Decimal.value_pos.mpr rate.positive

/-! ### One plus a rate -/

theorem gross_eq_ok : rate.gross = .ok gross ↔ Decimal.one.add? rate.fraction = some gross := by
  rw [VatRate.gross]
  cases Decimal.one.add? rate.fraction <;> simp

/-- Every rate but the largest decimal can be added to one. -/
theorem addable_iff : rate.Addable ↔ rate.fraction ≠ .greatest := by
  have hmissing : ¬ rate.Addable ↔ OutOfRange (1 + rate.fraction.value) := by
    rw [← Decimal.value_one, ← Decimal.add?_eq_none, Option.eq_none_iff_forall_ne_some,
      VatRate.Addable]
    simp only [gross_eq_ok, not_exists, ne_eq]
  have hpos := rate.value_pos
  rw [← not_iff_not, hmissing, not_not, Decimal.OutOfRange, abs_of_pos (by linarith)]
  constructor
  · exact fun h => Decimal.eq_greatest_of_le (by linarith)
  · intro h
    rw [h, Decimal.value_greatest]
    norm_num

/-- A rate breaks down in one way only: one plus it is out of range. -/
theorem gross_eq_error {fault : Breakdown} :
    rate.gross = .error fault ↔ fault = .outOfRange ∧ rate.fraction = .greatest := by
  rw [← not_not (a := rate.fraction = _), ← ne_eq, ← addable_iff, VatRate.Addable, VatRate.gross]
  cases Decimal.one.add? rate.fraction <;> simp [eq_comm]

/-- One plus a rate of at most one is a decimal. -/
theorem exists_gross (h : rate.fraction.value ≤ 1) :
    ∃ gross, rate.gross = .ok gross ∧ gross.value = 1 + rate.fraction.value := by
  have hfit : Representable (Decimal.one.value + rate.fraction.value) := by
    -- with the fraction digits of the rate, both coefficients are at most 10 ^ 28
    have hscale := rate.fraction.scale_le
    have hpos := rate.positive
    have hpow : (0 : ℚ) < 10 ^ rate.fraction.scale := by positivity
    have hle : rate.fraction.coefficient ≤ 10 ^ rate.fraction.scale := by
      rw [Decimal.value, div_le_one hpow] at h
      exact_mod_cast h
    have hten : (10 : Int) ^ rate.fraction.scale ≤ 10 ^ 28 :=
      pow_le_pow_right₀ (by norm_num) hscale
    have hsum : Decimal.one.value + rate.fraction.value =
        (10 ^ rate.fraction.scale + rate.fraction.coefficient : Int) /
          10 ^ rate.fraction.scale := by
      rw [Decimal.value_one, Decimal.value]
      push_cast
      field_simp
    rw [hsum]
    refine Decimal.representable_div ?_ hscale
    rw [twoTo_ninetySix]
    omega
  obtain ⟨gross, hgross, hvalue⟩ := Decimal.exists_add? hfit
  rw [Decimal.value_one] at hvalue
  exact ⟨gross, gross_eq_ok.mpr hgross, hvalue⟩

/-- One plus a rate is at least one, however it is rounded. -/
theorem one_le_gross (h : rate.gross = .ok gross) : 1 ≤ gross.value := by
  have hpos := rate.value_pos
  rcases le_total rate.fraction.value 1 with hle | hle
  · obtain ⟨gross', hgross', hvalue⟩ := exists_gross hle
    obtain rfl : gross' = gross := Except.ok.inj (hgross'.symm.trans h)
    linarith
  · have hnear := Decimal.abs_sub_le_of_add? (gross_eq_ok.mp h)
    rw [Decimal.value_one] at hnear
    linarith [(abs_le.mp hnear).1]

/-! ### The hundredfold of a rate -/

/-- A rate can be shown where its hundredfold is in range. -/
theorem exists_shown_iff :
    (∃ text, rate.shown = .ok text) ↔ ¬ OutOfRange (rate.fraction.value * 100) := by
  rw [← Decimal.value_hundred, ← Decimal.mul?_eq_none, VatRate.shown]
  cases rate.fraction.mul? .hundred <;> simp

/-- Showing a rate breaks down in one way only: its hundredfold is out of range. -/
theorem shown_eq_error {fault : Breakdown} : rate.shown = .error fault ↔
    fault = .outOfRange ∧ OutOfRange (rate.fraction.value * 100) := by
  rw [← Decimal.value_hundred, ← Decimal.mul?_eq_none, VatRate.shown]
  cases rate.fraction.mul? .hundred <;> simp [eq_comm]

/-- What can be shown can be added to one. -/
theorem addable_of_hundredfold (h : ¬ OutOfRange (rate.fraction.value * 100)) : rate.Addable := by
  refine addable_iff.mpr fun heq => h ?_
  rw [heq, Decimal.value_greatest, Decimal.OutOfRange]
  norm_num

/-- The hundredfold of a hundredth is in range. -/
theorem hundredfold_hundredth (d : Decimal) : ¬ OutOfRange ((hundredth d).value * 100) := by
  have hne : Decimal.hundred.value ≠ 0 := by norm_num
  have hle := d.abs_value_le
  have habs : |d.value / Decimal.hundred.value| = |d.value| / 100 := by
    rw [Decimal.value_hundred, abs_div, abs_of_pos (by norm_num : (0 : ℚ) < 100)]
  have hin : ¬ OutOfRange (d.value / Decimal.hundred.value) := by
    refine Decimal.not_outOfRange_of_abs_le ?_
    rw [habs]
    linarith [abs_nonneg d.value]
  obtain ⟨q, hq⟩ := Decimal.exists_div? hne hin
  rw [hundredth, hq, Option.getD_some]
  by_cases hscale : d.scale = 0
  · -- two more fraction digits have room
    have hwhole : d.value / Decimal.hundred.value = d.coefficient / 10 ^ 2 := by
      rw [Decimal.value_hundred, Decimal.value, hscale]
      norm_num
    have hfit : Representable (d.value / Decimal.hundred.value) :=
      hwhole ▸ Decimal.representable_div d.coefficient_lt (by norm_num)
    rw [Decimal.value_of_div? hq hfit, Decimal.value_hundred, div_mul_cancel₀ _ (by norm_num)]
    exact d.not_outOfRange_value
  · -- the number has a digit less in front of the point, and the hundredth is close
    have hshort := Decimal.abs_value_le_of_scale_ne_zero hscale
    have hsmall : |d.value / Decimal.hundred.value| ≤ 10 ^ 27 := by
      rw [habs]
      norm_num at hshort
      linarith
    have hnear : |q.value - d.value / Decimal.hundred.value| ≤ 1 / 20 := by
      rcases Decimal.eq_or_close_of_div? hq hsmall with heq | hclose
      · rw [heq, sub_self, abs_zero]
        norm_num
      · exact hclose.trans_eq (by norm_num)
    refine Decimal.not_outOfRange_of_abs_le ?_
    calc |q.value * 100| = |q.value| * 100 := by
          rw [abs_mul, abs_of_pos (by norm_num : (0 : ℚ) < 100)]
      _ ≤ (|d.value| / 100 + 1 / 20) * 100 := by
          have htriangle := abs_sub_abs_le_abs_sub q.value (d.value / Decimal.hundred.value)
          rw [habs] at htriangle
          linarith
      _ ≤ 2 ^ 96 - 1 := by
          norm_num at hshort ⊢
          linarith

theorem fraction_of_ofFraction (h : ofFraction d = .ok rate) : rate.fraction = d := by
  rw [ofFraction] at h
  split at h
  case isTrue =>
    cases h
    rfl
  case isFalse => exact nomatch h

/-- Every rate is accepted as the fraction that it is. -/
theorem ofFraction_fraction (rate : VatRate) : ofFraction rate.fraction = .ok rate :=
  dif_pos rate.positive

/-- The hundredfold of a whole percentage is the percentage. -/
theorem hundredfold_of_ofPercent (h : ofPercent percent = .ok rate) :
    ¬ OutOfRange (rate.fraction.value * 100) := by
  have hlt : ((percent.toNat : Int)).natAbs < twoTo 96 := by
    rw [Int.natAbs_natCast, twoTo_ninetySix]
    exact percent.toNat_lt.trans (by norm_num)
  obtain ⟨d, hd⟩ := Decimal.exists_ofParts? hlt (by norm_num : 2 ≤ 28)
  rw [ofPercent, hd, Option.getD_some] at h
  have hvalue : rate.fraction.value * 100 = percent.toNat := by
    rw [fraction_of_ofFraction h, Decimal.value_of_ofParts? hd]
    push_cast
    ring
  have hle : (percent.toNat : ℚ) ≤ 2 ^ 32 := by exact_mod_cast percent.toNat_lt.le
  refine Decimal.not_outOfRange_of_abs_le ?_
  rw [hvalue, abs_of_nonneg (Nat.cast_nonneg _)]
  norm_num at hle ⊢
  linarith

/-- A rate that is read is a hundredth or less than one, so its hundredfold is in range. -/
theorem hundredfold_of_read (h : read s = .ok rate) :
    ¬ OutOfRange (rate.fraction.value * 100) := by
  rw [read] at h
  split at h
  case h_1 => exact nomatch h
  case h_2 value _ =>
    split at h
    case isTrue =>
      rw [fraction_of_ofFraction h]
      exact hundredfold_hundredth value
    case isFalse hfraction =>
      rw [not_or, ne_eq, not_not, Decimal.compareValue_eq_lt, Decimal.value_one] at hfraction
      have hvalue := fraction_of_ofFraction h
      have hpos := rate.value_pos
      rw [← hvalue] at hfraction
      refine Decimal.not_outOfRange_of_abs_le ?_
      rw [abs_of_pos (by linarith)]
      norm_num
      linarith [hfraction.2]

end VatRate

end InvoiceFields
