import InvoiceFields.Proofs.Decimal.Cents
import InvoiceFields.Proofs.Decimal.Pointed

/-!
# Hundredths that are written

The digits of a decimal in front of the point are those of its whole part (`wholeDigits_eq`). A
whole number of hundredths is read again from these and two digits behind a point, even where not
all of its digits have room: then the last ones are zeros (`IsCents.exists_readChars?`).
-/

namespace InvoiceFields.Decimal

open Text (digitsValue)

variable {d : Decimal} {n scale : Nat}

/-! ### The whole part -/

/-- The digits in front of the point stand for the whole part. -/
theorem digitsValue_wholeDigits (d : Decimal) :
    digitsValue d.wholeDigits = d.magnitude / tenTo d.scale := by
  have hdiv : digitsValue (d.wholeDigits ++ d.fractionDigits) / tenTo d.fractionDigits.length =
      digitsValue d.wholeDigits :=
    digitsValue_append_div fun _ => d.isAsciiDigit_of_mem_fractionDigits
  rw [d.digitsValue_append_parts, d.length_fractionDigits] at hdiv
  exact hdiv.symm

/-- A zero in front of the point stands alone. -/
theorem length_wholeDigits_of_head? (h : d.wholeDigits.head? = some '0') :
    d.wholeDigits.length = 1 := by
  have hlength : d.wholeDigits.length = d.allDigits.length - d.scale := by
    rw [wholeDigits, List.length_take]
    omega
  have hall : d.allDigits.length = d.scale + 1 - (digits d.magnitude).length +
      (digits d.magnitude).length := by
    rw [allDigits, padLeft, List.length_append, List.length_replicate]
  by_cases hfull : d.scale + 1 < (digits d.magnitude).length
  · -- without padding the first digit is that of the number
    have hdigits : d.allDigits = digits d.magnitude := by
      rw [allDigits, padLeft, Nat.sub_eq_zero_of_le hfull.le]
      rfl
    rw [wholeDigits, hdigits, List.head?_take, if_neg (by omega), head?_digits] at h
    rw [h] at hfull
    exact absurd hfull (Nat.not_lt.mpr (Nat.le_add_left _ _))
  · omega

theorem wholeDigits_eq (d : Decimal) : d.wholeDigits = digits (d.magnitude / tenTo d.scale) := by
  rw [← digitsValue_wholeDigits, digits_digitsValue d.wholeDigits_ne_nil
    (List.all_eq_true.mpr fun _ => d.isAsciiDigit_of_mem_wholeDigits) length_wholeDigits_of_head?]

/-! ### Two digits behind the point -/

/-- The digits up to the second one behind the point stand for the hundredths. -/
theorem digitsValue_take_two (d : Decimal) :
    digitsValue (d.wholeDigits ++ d.fractionDigits.take 2) =
      d.magnitude / tenTo (d.scale - 2) := by
  have hdrop : (d.fractionDigits.drop 2).length = d.scale - 2 := by
    rw [List.length_drop, d.length_fractionDigits]
  rw [← d.digitsValue_append_parts, ← hdrop]
  nth_rewrite 2 [← List.take_append_drop 2 d.fractionDigits]
  rw [← List.append_assoc, digitsValue_append_div fun c hc =>
    d.isAsciiDigit_of_mem_fractionDigits (List.mem_of_mem_drop hc)]

/-- What has no more than hundredths has only zeros behind them. -/
theorem IsCents.magnitude_eq (h : d.IsCents) :
    d.magnitude = digitsValue (d.wholeDigits ++ d.fractionDigits.take 2) * tenTo (d.scale - 2) := by
  obtain ⟨m, hm⟩ := h
  have hdvd : tenTo (d.scale - 2) ∣ d.magnitude := by
    rcases Nat.le_total d.scale 2 with hscale | hscale
    · rw [Nat.sub_eq_zero_of_le hscale]
      exact Nat.one_dvd _
    · obtain ⟨k, hk⟩ := Nat.exists_eq_add_of_le hscale
      have hcoefficient : d.coefficient = m * 10 ^ k := by
        rw [value, hk, pow_add] at hm
        have hcast : (d.coefficient : ℚ) = m * 10 ^ k := by
          rw [← hm]
          field_simp
          norm_num
        exact_mod_cast hcast
      rw [hk, Nat.add_sub_cancel_left, magnitude, hcoefficient, Int.natAbs_mul, Int.natAbs_pow]
      exact Nat.dvd_mul_left _ _
  rw [digitsValue_take_two, Nat.div_mul_cancel hdvd]

/-- Zeros at the end of the fraction do not count. -/
theorem signed_mul_tenTo_div (negative : Bool) (n scale k : Nat) :
    ((signed negative (n * tenTo k) : Int) : ℚ) / 10 ^ (scale + k) =
      (signed negative n : Int) / 10 ^ scale := by
  have hpow : (10 : ℚ) ^ k ≠ 0 := by positivity
  rw [cast_signed, cast_signed, Nat.cast_mul, cast_tenTo, pow_add]
  split
  · rw [← neg_mul, mul_div_mul_right _ _ hpow]
  · rw [mul_div_mul_right _ _ hpow]

/-- The digits that are written behind the point. -/
def hundredths (d : Decimal) : List Char := (d.fractionDigits ++ ['0', '0']).take 2

theorem hundredths_eq (d : Decimal) :
    d.hundredths = d.fractionDigits.take 2 ++ List.replicate (2 - d.scale) '0' := by
  have hzeros : ['0', '0'] = List.replicate 2 '0' := rfl
  rw [hundredths, List.take_append, hzeros, List.take_replicate, d.length_fractionDigits,
    Nat.min_eq_left (Nat.sub_le 2 d.scale)]

/-- The sign in front of a decimal. -/
def signChars (d : Decimal) : List Char := if d.isNegative then ['-'] else []

theorem signChars_mem (d : Decimal) : d.signChars ∈ [[], ['+'], ['-']] := by
  rw [signChars]
  cases d.isNegative <;> decide

theorem decide_signChars (d : Decimal) : decide (d.signChars = ['-']) = d.isNegative := by
  rw [signChars]
  cases d.isNegative <;> rfl

theorem signed_signChars (d : Decimal) :
    signed (decide (d.signChars = ['-'])) d.magnitude = d.coefficient := by
  rw [decide_signChars]
  exact signed_natAbs d.coefficient

theorem isAsciiDigit_of_mem_hundredths {c : Char} (h : c ∈ d.hundredths) :
    Text.isAsciiDigit c = true := by
  rcases List.mem_append.mp (List.mem_of_mem_take h) with h | h
  · exact d.isAsciiDigit_of_mem_fractionDigits h
  · simp only [List.mem_cons, List.not_mem_nil, or_false, or_self] at h
    rw [h]
    rfl

/-- What is read from the sign, the whole part and two digits behind a point. -/
theorem exists_readChars?_hundredths (d : Decimal) :
    ∃ e, readChars? (d.signChars ++ (d.wholeDigits ++ '.' :: d.hundredths)) = some e ∧
      e.value = (signed (decide (d.signChars = ['-']))
        (digitsValue (d.wholeDigits ++ d.fractionDigits.take 2)) : Int) / 10 ^ min 2 d.scale := by
  have hwhole : ∀ c ∈ d.wholeDigits, Text.isAsciiDigit c = true := fun _ =>
    d.isAsciiDigit_of_mem_wholeDigits
  have hfraction : ∀ c ∈ d.fractionDigits.take 2, Text.isAsciiDigit c = true := fun c hc =>
    d.isAsciiDigit_of_mem_fractionDigits (List.mem_of_mem_take hc)
  have hscale := d.scale_le
  have hlength : (d.fractionDigits.take 2).length = min 2 d.scale := by
    rw [List.length_take, d.length_fractionDigits]
  have hquotient := d.digitsValue_take_two
  generalize hn : digitsValue (d.wholeDigits ++ d.fractionDigits.take 2) = n at hquotient ⊢
  have hfits : n < twoTo 96 :=
    calc n = d.magnitude / tenTo (d.scale - 2) := hquotient
      _ ≤ d.magnitude := Nat.div_le_self _ _
      _ < twoTo 96 := d.coefficient_lt
  obtain ⟨j, hzeros, hroom, hplaces⟩ :=
    exists_readDigits?_zeros hfits (by omega : min 2 d.scale ≤ 28) (2 - d.scale)
  have hread : readDigits? false false 0 0 (d.wholeDigits ++ '.' :: d.hundredths) =
      some (n * tenTo j, min 2 d.scale + j) := by
    rw [hundredths_eq, ← hzeros, ← hn, ← hlength]
    exact readDigits?_pointed d.wholeDigits_ne_nil hwhole hfraction (hn ▸ hfits) (by omega)
  obtain ⟨e, he, hcoefficient, hescale⟩ :=
    exists_readChars?_of_readDigits? d.signChars_mem d.wholeDigits_ne_nil hwhole
      (fun _ => isAsciiDigit_of_mem_hundredths) hread hroom hplaces
  refine ⟨e, he, ?_⟩
  calc e.value = (signed (decide (d.signChars = ['-'])) (n * tenTo j) : Int) /
        10 ^ (min 2 d.scale + j) := by rw [value, hcoefficient, hescale]
    _ = (signed (decide (d.signChars = ['-'])) n : Int) / 10 ^ min 2 d.scale :=
        signed_mul_tenTo_div ..

/-- **Written hundredths.** A whole number of hundredths is read from its sign, its whole part and
two digits behind a point. -/
theorem IsCents.exists_readChars? (h : d.IsCents) :
    ∃ e, readChars? (d.signChars ++ (d.wholeDigits ++ '.' :: d.hundredths)) = some e ∧
      e.value = d.value := by
  obtain ⟨e, he, hvalue⟩ := d.exists_readChars?_hundredths
  have hmagnitude := h.magnitude_eq
  generalize digitsValue (d.wholeDigits ++ d.fractionDigits.take 2) = n at hvalue hmagnitude
  have hplaces : min 2 d.scale + (d.scale - 2) = d.scale := by omega
  refine ⟨e, he, ?_⟩
  calc e.value = (signed (decide (d.signChars = ['-'])) n : Int) / 10 ^ min 2 d.scale := hvalue
    _ = (signed (decide (d.signChars = ['-'])) (n * tenTo (d.scale - 2)) : Int) /
        10 ^ (min 2 d.scale + (d.scale - 2)) := (signed_mul_tenTo_div ..).symm
    _ = d.value := by rw [← hmagnitude, signed_signChars, value, hplaces]

end InvoiceFields.Decimal
