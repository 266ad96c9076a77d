import InvoiceFields.Proofs.Decimal.Value

/-!
# Results that have no decimal

Fraction digits that do not fit are rounded away, so a sum, a difference or a product has no
decimal only where its digits in front of the point do not fit: where it rounds to an integer of
more than 96 bits (`add?_eq_none`, `sub?_eq_none`, `mul?_eq_none`). A result in range is off by at
most a half.
-/

namespace InvoiceFields.Decimal

variable {a b d : Decimal} {x y : ℚ} {c : Int} {scale : Nat}

/-- A number rounds to an integer of more than 96 bits. The largest integer of 96 bits is odd, so
the half above it goes up. -/
def OutOfRange (x : ℚ) : Prop := 2 ^ 96 - 1 / 2 ≤ |x|

@[simp]
theorem outOfRange_neg : OutOfRange (-x) ↔ OutOfRange x := by
  rw [OutOfRange, OutOfRange, abs_neg]

theorem OutOfRange.mono (h : OutOfRange x) (hxy : |x| ≤ |y|) : OutOfRange y := le_trans h hxy

theorem not_outOfRange_of_abs_le (h : |x| ≤ 2 ^ 96 - 1) : ¬ OutOfRange x := by
  rw [OutOfRange, not_le]
  linarith

/-- A coefficient is at most the largest integer of 96 bits. -/
theorem abs_coefficient_le (d : Decimal) : |(d.coefficient : ℚ)| ≤ 2 ^ 96 - 1 := by
  have hle : d.coefficient.natAbs + 1 ≤ twoTo 96 := d.coefficient_lt
  rw [twoTo_ninetySix] at hle
  have hcast : (d.coefficient.natAbs : ℚ) + 1 ≤ 79228162514264337593543950336 := by
    exact_mod_cast hle
  rw [Nat.cast_natAbs, Int.cast_abs] at hcast
  norm_num
  linarith

theorem abs_value_le (d : Decimal) : |d.value| ≤ 2 ^ 96 - 1 := by
  rw [value, abs_div, abs_of_pos (by positivity : (0 : ℚ) < 10 ^ d.scale)]
  exact (div_le_self (abs_nonneg _) (one_le_pow₀ (by norm_num))).trans d.abs_coefficient_le

theorem not_outOfRange_value (d : Decimal) : ¬ OutOfRange d.value :=
  not_outOfRange_of_abs_le d.abs_value_le

/-! ### Rounding to make room -/

/-- Rounding is off by at most a half. -/
theorem abs_roundHalfEven_sub_le (n k : Nat) :
    |(roundHalfEven n k : ℚ) - n / 10 ^ k| ≤ 1 / 2 := by
  have hpos : (0 : ℚ) < tenTo k := by exact_mod_cast tenTo_pos k
  have hparts : (n : ℚ) = tenTo k * (n / tenTo k : Nat) + (n % tenTo k : Nat) := by
    exact_mod_cast (Nat.div_add_mod n (tenTo k)).symm
  have hlt : n % tenTo k < tenTo k := Nat.mod_lt n (tenTo_pos k)
  rw [← cast_tenTo, roundHalfEven]
  generalize n / tenTo k = q at hparts ⊢
  generalize n % tenTo k = r at hparts hlt ⊢
  have hdiff : ∀ m : ℚ, m - n / tenTo k = m - q - r / tenTo k := by
    intro m
    rw [hparts]
    field_simp
    ring
  rw [hdiff]
  have hnonneg : (0 : ℚ) ≤ r / tenTo k := by positivity
  have hone := rest_div_lt_one hlt
  split
  case isTrue h =>
    have hhalf := (half_le_div_iff (tenTo_pos k)).mpr (by omega : tenTo k ≤ 2 * r)
    push_cast
    rw [abs_le]
    constructor <;> linarith
  case isFalse h =>
    have hhalf := (div_le_half_iff (tenTo_pos k)).mpr (by omega : 2 * r ≤ tenTo k)
    rw [abs_le]
    constructor <;> linarith

/-- What is left after rounding fits exactly when the number is in range. -/
theorem roundHalfEven_lt_iff (n k : Nat) :
    roundHalfEven n k < twoTo 96 ↔ ¬ OutOfRange (n / 10 ^ k) := by
  have hpos : (0 : ℚ) < tenTo k := by exact_mod_cast tenTo_pos k
  obtain ⟨top, htop, hodd⟩ : ∃ top, twoTo 96 = top + 1 ∧ top % 2 = 1 :=
    ⟨79228162514264337593543950335, twoTo_ninetySix, by norm_num⟩
  have hrange : ¬ OutOfRange (n / 10 ^ k) ↔ 2 * n < 2 * (tenTo k * top) + tenTo k := by
    have htop' : (2 : ℚ) ^ 96 = top + 1 := by
      rw [twoTo_ninetySix] at htop
      rw [← Nat.cast_add_one, ← htop]
      norm_num
    rw [OutOfRange, not_le, abs_of_nonneg (by positivity), ← cast_tenTo, div_lt_iff₀ hpos, htop',
      ← Nat.cast_lt (α := ℚ)]
    push_cast
    constructor <;> intro h <;> linarith
  have hparts := Nat.div_add_mod n (tenTo k)
  have hlt := Nat.mod_lt n (tenTo_pos k)
  rw [hrange, roundHalfEven, htop]
  generalize n / tenTo k = q at hparts ⊢
  generalize n % tenTo k = r at hparts hlt ⊢
  generalize tenTo k = t at hparts hlt ⊢
  rcases lt_trichotomy q top with hq | rfl | hq
  · have hmul : t * (q + 1) ≤ t * top := Nat.mul_le_mul_left t hq
    rw [Nat.mul_succ] at hmul
    refine iff_of_true ?_ (by omega)
    split <;> omega
  · -- the largest coefficient is odd
    split <;> omega
  · have hmul : t * (top + 1) ≤ t * q := Nat.mul_le_mul_left t hq
    rw [Nat.mul_succ] at hmul
    refine iff_of_false ?_ (by omega)
    split <;> omega

theorem ofParts?_eq_none : ofParts? c scale = none ↔ ¬ (c.natAbs < twoTo 96 ∧ scale ≤ 28) := by
  rw [ofParts?]
  split
  case isTrue h => exact iff_of_false (Option.some_ne_none _) (not_not.mpr h)
  case isFalse h => exact iff_of_true rfl h

/-- A result is missing only where it is out of range. -/
theorem fit?_eq_none : fit? c scale = none ↔ OutOfRange (c / 10 ^ scale) := by
  have habs : ∀ k : Nat, |(c : ℚ) / 10 ^ k| = |(c.natAbs : ℚ) / 10 ^ k| := by
    intro k
    rw [abs_div, abs_div, Nat.cast_natAbs, Int.cast_abs, abs_abs]
  rw [fit?, List.findSome?_eq_none_iff]
  constructor
  · intro h
    have hnone := h scale (mem_drop_range.mpr (by omega))
    rw [ofParts?_eq_none, natAbs_signed, roundHalfEven_lt_iff, not_and_or, not_not] at hnone
    exact (hnone.resolve_right (by omega)).mono (habs scale).ge
  · intro h k hk
    -- with a fraction left, the coefficient is only larger
    obtain ⟨-, hle⟩ := mem_drop_range.mp hk
    rw [ofParts?_eq_none, natAbs_signed, roundHalfEven_lt_iff, not_and_or, not_not]
    left
    refine h.mono ?_
    rw [habs, abs_of_nonneg (by positivity), abs_of_nonneg (by positivity)]
    exact div_le_div_of_nonneg_left (by positivity) (by positivity)
      (pow_le_pow_right₀ (by norm_num) (by omega))

/-- A result that is found is off by at most a half. -/
theorem abs_sub_le_of_fit? (h : fit? c scale = some d) : |d.value - c / 10 ^ scale| ≤ 1 / 2 := by
  obtain ⟨before, k, after, hsplit, hk, -⟩ := List.findSome?_eq_some_iff.mp h
  have hmem : k ∈ (List.range (scale + 1)).drop (scale - 28) := by
    rw [hsplit]
    exact List.mem_append_right _ List.mem_cons_self
  obtain ⟨-, hle⟩ := mem_drop_range.mp hmem
  obtain ⟨l, rfl⟩ := Nat.exists_eq_add_of_le' (by omega : k ≤ scale)
  rw [Nat.add_sub_cancel] at hk
  have hpow : (0 : ℚ) < 10 ^ l := by positivity
  have hsigned : (c : ℚ) = if decide (c < 0) then -(c.natAbs : ℚ) else c.natAbs := by
    rw [← cast_signed, signed_natAbs]
  have hdiff : d.value - c / 10 ^ (l + k) =
      (if decide (c < 0) then -((roundHalfEven c.natAbs k : ℚ) - c.natAbs / 10 ^ k)
        else (roundHalfEven c.natAbs k : ℚ) - c.natAbs / 10 ^ k) / 10 ^ l := by
    rw [value_of_ofParts? hk, cast_signed, pow_add]
    conv_lhs => rw [hsigned]
    split
    case isTrue =>
      field_simp
      ring
    case isFalse =>
      field_simp
  have hround := abs_roundHalfEven_sub_le c.natAbs k
  rw [hdiff, abs_div, abs_of_pos hpow, div_le_iff₀ hpow]
  have hone : (1 : ℚ) ≤ 10 ^ l := one_le_pow₀ (by norm_num)
  split
  case isTrue =>
    rw [abs_neg]
    linarith
  case isFalse => linarith

/-! ### Sums, differences and products -/

/-- A sum is missing exactly where it is out of range. -/
theorem add?_eq_none : a.add? b = none ↔ OutOfRange (a.value + b.value) := by
  rw [add?]
  split
  case isTrue ha =>
    rw [value_eq_zero.mpr ha, zero_add]
    exact iff_of_false (Option.some_ne_none b) b.not_outOfRange_value
  case isFalse ha =>
    split
    case isTrue hb =>
      rw [value_eq_zero.mpr hb, add_zero]
      exact iff_of_false (Option.some_ne_none a) a.not_outOfRange_value
    case isFalse hb => rw [fit?_eq_none, sum_div]

/-- A sum that is found is off by at most a half. -/
theorem abs_sub_le_of_add? (h : a.add? b = some d) : |d.value - (a.value + b.value)| ≤ 1 / 2 := by
  rw [add?] at h
  split at h
  case isTrue ha =>
    cases h
    rw [value_eq_zero.mpr ha]
    norm_num
  case isFalse ha =>
    split at h
    case isTrue hb =>
      cases h
      rw [value_eq_zero.mpr hb]
      norm_num
    case isFalse hb =>
      rw [← sum_div]
      exact abs_sub_le_of_fit? h

/-- A difference is missing exactly where it is out of range. -/
theorem sub?_eq_none : a.sub? b = none ↔ OutOfRange (a.value - b.value) := by
  rw [sub?, add?_eq_none, value_neg, sub_eq_add_neg]

/-- A product is missing exactly where it is out of range. -/
theorem mul?_eq_none : a.mul? b = none ↔ OutOfRange (a.value * b.value) := by
  have hsmall : ∀ {y : ℚ}, |y| < 1 / 10 ^ 28 → ¬ OutOfRange y := by
    intro y hy
    refine not_outOfRange_of_abs_le (hy.le.trans ?_)
    norm_num
  rw [mul?]
  split
  case isTrue hzero =>
    rw [← value_eq_zero, ← value_eq_zero (d := b), ← mul_eq_zero] at hzero
    rw [hzero]
    exact iff_of_false (Option.some_ne_none zero) (hsmall (by norm_num))
  case isFalse hzero =>
    split
    case isTrue h =>
      exact iff_of_false (Option.some_ne_none zero) (hsmall (abs_mul_lt_of_short h.1 h.2.1 h.2.2))
    case isFalse h => rw [fit?_eq_none, product_div]

end InvoiceFields.Decimal
