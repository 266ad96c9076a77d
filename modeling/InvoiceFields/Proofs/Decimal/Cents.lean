import InvoiceFields.Amount
import InvoiceFields.Proofs.Decimal.Value

/-!
# Rounding to cents

`halfAway` is the nearest integer of a number, a half going away from zero. What is written into an
extraction is rounded so, to hundredths (`value_toCents`). Two parts of a whole number that are
rounded apart make it up again (`halfAway_add_halfAway_sub`), unless they end in a half: both then
go up (`abs_halfAway_add_halfAway_sub`).
-/

namespace InvoiceFields

/-! ### The nearest integer -/

/-- The nearest integer, a half going away from zero. -/
def halfAway (x : ℚ) : Int := if 0 ≤ x then ⌊x + 1 / 2⌋ else -⌊-x + 1 / 2⌋

/-- A number is half an odd integer. -/
def IsHalf (x : ℚ) : Prop := ∃ m : Int, x = m + 1 / 2

variable {x y : ℚ} {n : Int}

theorem halfAway_neg (x : ℚ) : halfAway (-x) = -halfAway x := by
  rcases lt_trichotomy x 0 with hx | rfl | hx
  · rw [halfAway, halfAway, if_pos (by linarith), if_neg (by linarith), neg_neg]
  · norm_num [halfAway]
  · rw [halfAway, halfAway, if_neg (by linarith), if_pos hx.le, neg_neg]

theorem isHalf_neg : IsHalf (-x) ↔ IsHalf x := by
  have h : ∀ {y : ℚ}, IsHalf y → IsHalf (-y) := by
    rintro _ ⟨m, rfl⟩
    exact ⟨-m - 1, by push_cast; ring⟩
  exact ⟨fun hx => neg_neg x ▸ h hx, h⟩

theorem floor_intCast_add_half (n : Int) : ⌊(n : ℚ) + 1 / 2⌋ = n := by
  rw [Int.floor_eq_iff]
  constructor <;> linarith

@[simp]
theorem halfAway_intCast (n : Int) : halfAway n = n := by
  rw [halfAway]
  split
  case isTrue => exact floor_intCast_add_half n
  case isFalse => rw [← Int.cast_neg, floor_intCast_add_half, neg_neg]

/-- The nearest integer is at most a half away. -/
theorem abs_halfAway_sub_le (x : ℚ) : |(halfAway x : ℚ) - x| ≤ 1 / 2 := by
  have hfloor : ∀ y : ℚ, |(⌊y + 1 / 2⌋ : ℚ) - y| ≤ 1 / 2 := by
    intro y
    have hle := Int.floor_le (y + 1 / 2)
    have hlt := Int.lt_floor_add_one (y + 1 / 2)
    rw [abs_le]
    constructor <;> linarith
  rw [halfAway]
  split
  case isTrue => exact hfloor x
  case isFalse =>
    have h := hfloor (-x)
    rwa [← abs_neg, neg_sub', neg_neg, ← Int.cast_neg] at h

/-- A number that is no half is closer than that to its nearest integer. -/
theorem abs_halfAway_sub_lt (hx : ¬ IsHalf x) : |(halfAway x : ℚ) - x| < 1 / 2 := by
  refine lt_of_le_of_ne (abs_halfAway_sub_le x) fun heq => hx ?_
  rcases eq_or_eq_neg_of_abs_eq heq with h | h
  · exact ⟨halfAway x - 1, by push_cast; linarith⟩
  · exact ⟨halfAway x, by linarith⟩

/-- An integer that is closer than a half is the nearest. -/
theorem halfAway_eq_of_abs_sub_lt (h : |x - n| < 1 / 2) : halfAway x = n := by
  have hround := abs_le.mp (abs_halfAway_sub_le x)
  have hnear := abs_lt.mp h
  have hlow : (n : ℚ) - 1 < halfAway x := by linarith [hround.1, hnear.1]
  have hhigh : (halfAway x : ℚ) < n + 1 := by linarith [hround.2, hnear.2]
  have hlow' : n - 1 < halfAway x := by exact_mod_cast hlow
  have hhigh' : halfAway x < n + 1 := by exact_mod_cast hhigh
  omega

/-- A whole number is rounded apart from what stands beside it with the same sign. -/
theorem halfAway_intCast_add (h : 0 ≤ n ∧ 0 ≤ y ∨ n ≤ 0 ∧ y ≤ 0) :
    halfAway (n + y) = n + halfAway y := by
  have hnonneg : ∀ {n : Int} {y : ℚ}, 0 ≤ n → 0 ≤ y → halfAway (n + y) = n + halfAway y := by
    intro n y hn hy
    have hcast : (0 : ℚ) ≤ n := by exact_mod_cast hn
    rw [halfAway, halfAway, if_pos (add_nonneg hcast hy), if_pos hy, add_assoc,
      Int.floor_intCast_add]
  rcases h with ⟨hn, hy⟩ | ⟨hn, hy⟩
  · exact hnonneg hn hy
  · have h := hnonneg (neg_nonneg.mpr hn) (neg_nonneg.mpr hy)
    rw [Int.cast_neg, ← neg_add, halfAway_neg, halfAway_neg] at h
    omega

/-- Two parts of a whole number, each rounded, make it up if they end in no half. -/
theorem halfAway_add_halfAway_sub (hx : ¬ IsHalf x) : halfAway x + halfAway (n - x) = n := by
  have hrest : ¬ IsHalf (n - x) := by
    rintro ⟨m, hm⟩
    exact hx ⟨n - m - 1, by push_cast; linarith⟩
  have hleft := abs_lt.mp (abs_halfAway_sub_lt hx)
  have hright := abs_lt.mp (abs_halfAway_sub_lt hrest)
  have hlow : (n : ℚ) - 1 < (halfAway x + halfAway (n - x) : Int) := by
    push_cast
    linarith [hleft.1, hright.1]
  have hhigh : ((halfAway x + halfAway (n - x) : Int) : ℚ) < n + 1 := by
    push_cast
    linarith [hleft.2, hright.2]
  have hlow' : n - 1 < halfAway x + halfAway (n - x) := by exact_mod_cast hlow
  have hhigh' : halfAway x + halfAway (n - x) < n + 1 := by exact_mod_cast hhigh
  omega

/-- Two parts that end in a half both go up, away from zero. -/
theorem abs_halfAway_add_halfAway_sub (hx : IsHalf x) (h : 0 ≤ x ∧ x ≤ n ∨ n ≤ x ∧ x ≤ 0) :
    |halfAway x + halfAway (n - x)| = |n| + 1 := by
  have hnonneg : ∀ {n : Int} {x : ℚ}, IsHalf x → 0 ≤ x → x ≤ n →
      |halfAway x + halfAway (n - x)| = |n| + 1 := by
    rintro n _ ⟨m, rfl⟩ hx hxn
    have hleft : halfAway ((m : ℚ) + 1 / 2) = m + 1 := by
      rw [halfAway, if_pos hx, Int.floor_eq_iff]
      push_cast
      constructor <;> linarith
    have hright : halfAway (n - ((m : ℚ) + 1 / 2)) = n - m := by
      rw [halfAway, if_pos (by linarith), Int.floor_eq_iff]
      push_cast
      constructor <;> linarith
    have hn : 0 ≤ n := by exact_mod_cast hx.trans hxn
    rw [hleft, hright, abs_of_nonneg hn, abs_of_nonneg (by omega)]
    omega
  rcases h with ⟨hx0, hxn⟩ | ⟨hnx, hx0⟩
  · exact hnonneg hx hx0 hxn
  · have h := hnonneg (isHalf_neg.mpr hx) (neg_nonneg.mpr hx0) (n := -n) (by push_cast; linarith)
    have hrest : ((-n : Int) : ℚ) - -x = -(n - x) := by push_cast; ring
    rwa [hrest, halfAway_neg, halfAway_neg, ← neg_add, abs_neg, abs_neg] at h

/-! ### Decimals -/

namespace Decimal

variable {d : Decimal}

/-- Lengthening a fraction leaves the number as it is. -/
@[simp]
theorem value_withPlaces (d : Decimal) (places : Nat) : (d.withPlaces places).value = d.value := by
  rw [withPlaces]
  generalize headroom d.magnitude (places - d.scale) = k
  cases h : ofParts? (d.coefficient * tenTo k) (d.scale + k) with
  | none => rfl
  | some e =>
    rw [Option.getD_some, value_of_ofParts? h, value, pow_add]
    push_cast
    rw [cast_tenTo, mul_div_mul_right _ _ (by positivity : (10 : ℚ) ^ k ≠ 0)]

/-- A quotient is rounded up from half a divisor on. -/
private theorem floor_add_half {q r divisor : Nat} (hr : r < divisor) :
    ⌊(q : ℚ) + r / divisor + 1 / 2⌋ = ((if divisor ≤ 2 * r then q + 1 else q : Nat) : Int) := by
  have hpos := Nat.zero_lt_of_lt hr
  have hlt := rest_div_lt_one hr
  have hnonneg : (0 : ℚ) ≤ r / divisor := by positivity
  rw [Int.floor_eq_iff]
  split
  case isTrue h =>
    have hhalf := (half_le_div_iff hpos).mpr h
    push_cast
    constructor <;> linarith
  case isFalse h =>
    have hhalf := not_le.mp (mt (half_le_div_iff hpos).mp h)
    push_cast
    constructor <;> linarith

/-- The nearest integer of a number by that of its absolute value. -/
theorem halfAway_eq_signed (x : ℚ) :
    halfAway x = signed (decide (x < 0)) ⌊|x| + 1 / 2⌋.toNat := by
  have hnonneg : 0 ≤ ⌊|x| + 1 / 2⌋ := Int.floor_nonneg.mpr (by positivity)
  rw [halfAway, signed]
  by_cases hx : 0 ≤ x
  · rw [if_pos hx, if_neg (by simpa using hx), Int.toNat_of_nonneg hnonneg, abs_of_nonneg hx]
  · rw [if_neg hx, if_pos (by simpa using hx), Int.toNat_of_nonneg hnonneg,
      abs_of_neg (not_le.mp hx)]

/-- Moving the point keeps the sign. -/
theorem decide_neg_eq_isNegative (d : Decimal) (places : Nat) :
    decide (d.value * 10 ^ places < 0) = d.isNegative := by
  rw [isNegative, decide_eq_decide, ← not_le, ← not_le,
    mul_nonneg_iff_of_pos_right (by positivity), value_nonneg]

/-- The digits in front of a place and those behind it. -/
theorem abs_mul_eq_div_add_mod {d : Decimal} {places k : Nat} (hk : d.scale = places + k) :
    |d.value * 10 ^ places| = (d.magnitude / tenTo k : Nat) +
      (d.magnitude % tenTo k : Nat) / (tenTo k : Nat) := by
  have hparts := Nat.div_add_mod d.magnitude (tenTo k)
  generalize d.magnitude / tenTo k = q at hparts ⊢
  generalize d.magnitude % tenTo k = r at hparts ⊢
  rw [abs_mul, ← magnitude_div, abs_of_pos (by positivity : (0 : ℚ) < 10 ^ places), hk, pow_add,
    ← hparts]
  push_cast
  rw [cast_tenTo]
  field_simp

/-- A fraction that is too long is shortened to the nearest one, a half going away from zero. -/
theorem roundHalfUp_of_lt {places : Nat} (h : places < d.scale) :
    (d.roundHalfUp places).coefficient = halfAway (d.value * 10 ^ places) ∧
      (d.roundHalfUp places).scale = places := by
  obtain ⟨k, hk⟩ := Nat.exists_eq_add_of_lt h
  have hscale := d.scale_le
  have hsplit : d.scale = places + (k + 1) := by omega
  have habs := abs_mul_eq_div_add_mod hsplit
  rw [roundHalfUp, if_neg (not_le.mpr h), show d.scale - places = k + 1 by omega]
  dsimp only
  have hrest := Nat.mod_lt d.magnitude (tenTo_pos (k + 1))
  have hten : 10 ≤ tenTo (k + 1) := Nat.le_mul_of_pos_left 10 (tenTo_pos k)
  have hsmall : d.magnitude / tenTo (k + 1) ≤ d.magnitude / 10 :=
    Nat.div_le_div_left hten (by decide)
  generalize d.magnitude / tenTo (k + 1) = q at habs hsmall ⊢
  generalize d.magnitude % tenTo (k + 1) = r at habs hrest ⊢
  have hround := floor_add_half hrest (q := q)
  rw [← habs] at hround
  have hn : (if tenTo (k + 1) ≤ 2 * r then q + 1 else q) ≤ q + 1 := by
    split <;> omega
  generalize (if tenTo (k + 1) ≤ 2 * r then q + 1 else q) = n at hround hn ⊢
  -- what has lost a digit can go up
  have hlt : (signed d.isNegative n).natAbs < twoTo 96 := by
    have hmagnitude : d.magnitude < twoTo 96 := d.coefficient_lt
    rw [twoTo_ninetySix] at hmagnitude ⊢
    rw [natAbs_signed]
    omega
  obtain ⟨e, he⟩ := exists_ofParts? hlt (by omega : places ≤ 28)
  obtain ⟨hcoefficient, hplaces⟩ := ofParts?_eq_some.mp he
  rw [he, Option.getD_some]
  refine ⟨?_, hplaces⟩
  rw [hcoefficient, halfAway_eq_signed, decide_neg_eq_isNegative, hround, Int.toNat_natCast]

/-- A shortened fraction is the nearest one of its length, a half going away from zero. -/
theorem value_roundHalfUp (d : Decimal) (places : Nat) :
    (d.roundHalfUp places).value = halfAway (d.value * 10 ^ places) / 10 ^ places := by
  rcases lt_or_ge places d.scale with h | h
  · obtain ⟨hcoefficient, hscale⟩ := roundHalfUp_of_lt h
    rw [value, hcoefficient, hscale]
  · -- no digit is dropped
    obtain ⟨k, rfl⟩ := Nat.exists_eq_add_of_le h
    have hwhole : d.value * 10 ^ (d.scale + k) = (d.coefficient * 10 ^ k : Int) := by
      rw [value, pow_add, ← mul_assoc, div_mul_cancel₀ _ (by positivity)]
      push_cast
      rfl
    rw [roundHalfUp, if_pos h, hwhole, halfAway_intCast, ← hwhole,
      mul_div_cancel_right₀ _ (by positivity)]

theorem scale_roundHalfUp_le (d : Decimal) (places : Nat) :
    (d.roundHalfUp places).scale ≤ places := by
  rcases lt_or_ge places d.scale with h | h
  · exact (roundHalfUp_of_lt h).2.le
  · rwa [roundHalfUp, if_pos h]

/-- A fraction is lengthened as far as it should be where the coefficient has room. -/
theorem scale_withPlaces {places : Nat} (hscale : d.scale ≤ places) (hplaces : places ≤ 28)
    (hroom : d.magnitude * tenTo (places - d.scale) < twoTo 96) :
    (d.withPlaces places).scale = places := by
  have hfull : headroom d.magnitude (places - d.scale) = places - d.scale := by
    cases hlimit : places - d.scale with
    | zero => rfl
    | succ k => rw [headroom, if_pos (hlimit ▸ hroom)]
  have hlt : (d.coefficient * tenTo (places - d.scale)).natAbs < twoTo 96 := by
    rwa [Int.natAbs_mul, Int.natAbs_natCast]
  have hsum : d.scale + (places - d.scale) = places := by omega
  obtain ⟨e, he⟩ := exists_ofParts? hlt hplaces
  rw [withPlaces, hfull, hsum, he]
  exact (ofParts?_eq_some.mp he).2

/-- What is written into an extraction is rounded to hundredths. -/
theorem value_toCents (d : Decimal) :
    (Amount.toCents d).value = halfAway (100 * d.value) / 100 := by
  rw [Amount.toCents, value_withPlaces, value_roundHalfUp, mul_comm]
  norm_num

/-- What is written into an extraction has two fraction digits where they have room. -/
theorem scale_toCents (h : |(Amount.toCents d).value| ≤ 10 ^ 26) :
    (Amount.toCents d).scale = 2 := by
  rw [Amount.toCents, value_withPlaces] at h
  have hscale := d.scale_roundHalfUp_le 2
  refine scale_withPlaces hscale (by norm_num) ?_
  generalize d.roundHalfUp 2 = e at h hscale ⊢
  have hhundredths : ((e.magnitude * tenTo (2 - e.scale) : Nat) : ℚ) = |e.value| * 10 ^ 2 := by
    rw [← magnitude_div, Nat.cast_mul, cast_tenTo, ← pow_sub_mul_pow (10 : ℚ) hscale]
    field_simp
  have hle : e.magnitude * tenTo (2 - e.scale) ≤ 10 ^ 28 := by
    have hcast : ((e.magnitude * tenTo (2 - e.scale) : Nat) : ℚ) ≤ 10 ^ 28 := by
      rw [hhundredths]
      linarith
    exact_mod_cast hcast
  exact lt_of_le_of_lt hle (by rw [twoTo_ninetySix]; norm_num)

/-- A decimal is a whole number of hundredths. -/
def IsCents (d : Decimal) : Prop := ∃ n : Int, 100 * d.value = n

/-- Two fraction digits are hundredths. -/
theorem isCents_of_scale_le (h : d.scale ≤ 2) : d.IsCents := by
  obtain ⟨k, hk⟩ := Nat.exists_eq_add_of_le h
  refine ⟨d.coefficient * 10 ^ k, ?_⟩
  have hpow : (100 : ℚ) = 10 ^ d.scale * 10 ^ k := by
    rw [← pow_add, ← hk]
    norm_num
  rw [value, hpow]
  push_cast
  field_simp

/-- Hundredths are not rounded. -/
theorem IsCents.value_toCents (h : d.IsCents) : (Amount.toCents d).value = d.value := by
  obtain ⟨n, hn⟩ := h
  rw [Decimal.value_toCents, hn, halfAway_intCast, ← hn, mul_div_cancel_left₀ _ (by norm_num)]

end Decimal

end InvoiceFields
