import InvoiceFields.Proofs.Decimal.Hundredths

/-!
# Hundredths that are cut off

`towardZero` is what is left of a number when its fraction is cut off. That is the nearest integer
exactly if the fraction is less than a half (`halfAway_eq_towardZero_iff`); otherwise the nearest
integer is one further away from zero. What is read from the sign of a decimal, its whole part and
two digits behind a point are its hundredths, cut off (`exists_readChars?_towardZero`).
-/

namespace InvoiceFields

/-! ### Cutting off a fraction -/

/-- The integer that is left of a number without its fraction. -/
def towardZero (x : ℚ) : Int := if 0 ≤ x then ⌊x⌋ else -⌊-x⌋

variable {x : ℚ}

@[simp]
theorem towardZero_intCast (n : Int) : towardZero n = n := by
  rw [towardZero]
  split
  case isTrue => exact Int.floor_intCast n
  case isFalse => rw [← Int.cast_neg, Int.floor_intCast, neg_neg]

/-- What is left keeps its sign. -/
theorem towardZero_eq_signed (x : ℚ) :
    towardZero x = Decimal.signed (decide (x < 0)) ⌊|x|⌋.toNat := by
  have hnonneg : 0 ≤ ⌊|x|⌋ := Int.floor_nonneg.mpr (abs_nonneg x)
  rw [towardZero, Decimal.signed]
  by_cases hx : 0 ≤ x
  · rw [if_pos hx, if_neg (by simpa using hx), Int.toNat_of_nonneg hnonneg, abs_of_nonneg hx]
  · rw [if_neg hx, if_pos (by simpa using hx), Int.toNat_of_nonneg hnonneg,
      abs_of_neg (not_le.mp hx)]

/-- Rounding goes up from a half on. -/
private theorem floor_add_half_eq (x : ℚ) :
    ⌊x + 1 / 2⌋ = ⌊x⌋ + if 1 / 2 ≤ Int.fract x then 1 else 0 := by
  have hsum := Int.floor_add_fract x
  have hlt := Int.fract_lt_one x
  have hnonneg := Int.fract_nonneg x
  rw [Int.floor_eq_iff]
  split
  case isTrue h =>
    push_cast
    constructor <;> linarith
  case isFalse h =>
    have hhalf := not_le.mp h
    push_cast
    constructor <;> linarith

/-- The nearest integer is one further away from zero where a half or more is cut off. -/
theorem abs_halfAway_eq (x : ℚ) :
    |halfAway x| = |towardZero x| + if 1 / 2 ≤ Int.fract |x| then 1 else 0 := by
  have hfloor : 0 ≤ ⌊|x|⌋ := Int.floor_nonneg.mpr (abs_nonneg x)
  rw [Decimal.halfAway_eq_signed, towardZero_eq_signed, Int.abs_eq_natAbs, Int.abs_eq_natAbs,
    Decimal.natAbs_signed, Decimal.natAbs_signed, floor_add_half_eq, Int.toNat_of_nonneg hfloor]
  split <;> omega

/-- The nearest integer is what is left exactly where less than a half is cut off. -/
theorem halfAway_eq_towardZero_iff (x : ℚ) :
    halfAway x = towardZero x ↔ Int.fract |x| < 1 / 2 := by
  have habs := abs_halfAway_eq x
  constructor
  · intro heq
    by_contra hhalf
    rw [heq, if_pos (not_lt.mp hhalf)] at habs
    omega
  · intro hlt
    rw [Decimal.halfAway_eq_signed, towardZero_eq_signed, floor_add_half_eq,
      if_neg (not_le.mpr hlt), add_zero]

/-! ### Two digits behind the point -/

namespace Decimal

/-- The sign, the whole part and two digits behind a point are read as the hundredths without the
rest of the fraction. -/
theorem exists_readChars?_towardZero (d : Decimal) :
    ∃ e, readChars? (d.signChars ++ (d.wholeDigits ++ '.' :: d.hundredths)) = some e ∧
      e.value = towardZero (100 * d.value) / 100 := by
  rcases Nat.le_total d.scale 2 with hscale | hscale
  · -- nothing is cut off
    obtain ⟨n, hn⟩ := isCents_of_scale_le hscale
    obtain ⟨e, he, hvalue⟩ := (isCents_of_scale_le hscale).exists_readChars?
    refine ⟨e, he, ?_⟩
    rw [hvalue, hn, towardZero_intCast, ← hn, mul_div_cancel_left₀ _ (by norm_num)]
  · obtain ⟨k, hk⟩ := Nat.exists_eq_add_of_le hscale
    obtain ⟨e, he, hvalue⟩ := d.exists_readChars?_hundredths
    have hhundred : 100 * d.value = d.value * 10 ^ 2 := by ring
    have hfloor : ⌊|d.value * 10 ^ 2|⌋ = (d.magnitude / tenTo k : Nat) := by
      have hrest := rest_div_lt_one (Nat.mod_lt d.magnitude (tenTo_pos k))
      have hnonneg : (0 : ℚ) ≤ (d.magnitude % tenTo k : Nat) / (tenTo k : Nat) := by positivity
      rw [Int.floor_eq_iff, abs_mul_eq_div_add_mod hk, Int.cast_natCast]
      constructor <;> linarith
    refine ⟨e, he, ?_⟩
    rw [hvalue, digitsValue_take_two, decide_signChars, ← d.decide_neg_eq_isNegative 2,
      towardZero_eq_signed, hhundred, hfloor, Int.toNat_natCast, Nat.min_eq_left hscale,
      show d.scale - 2 = k by omega]
    norm_num

end Decimal

end InvoiceFields
