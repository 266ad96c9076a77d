import InvoiceFields.Decimal.Arithmetic
import InvoiceFields.Decimal.Rounding
import InvoiceFields.Proofs.Decimal.Numerals
import Mathlib.Algebra.Order.Field.Basic
import Mathlib.Data.Rat.Floor
import Mathlib.Tactic.FieldSimp
import Mathlib.Tactic.Linarith
import Mathlib.Tactic.NormNum
import Mathlib.Tactic.Positivity
import Mathlib.Tactic.Ring

/-!
# The numbers that decimals stand for

A decimal stands for a rational number, whatever its scale. Sums, differences and products are
exact wherever the exact result is a decimal (`exists_add?`, `exists_sub?`, `exists_mul?`): digits
are rounded away only to make room, and trailing zeros give room without changing the number
(`value_normalize`).
-/

namespace InvoiceFields

/-! ### Powers -/

theorem tenTo_eq (k : Nat) : tenTo k = 10 ^ k := rfl

theorem twoTo_ninetySix : twoTo 96 = 79228162514264337593543950336 := rfl

@[simp]
theorem cast_tenTo (k : Nat) : (tenTo k : ℚ) = 10 ^ k := by
  rw [tenTo_eq]
  push_cast
  rfl

theorem tenTo_pos (k : Nat) : 0 < tenTo k := Nat.pow_pos (by decide)

theorem tenTo_add (k l : Nat) : tenTo (k + l) = tenTo k * tenTo l := by
  simp only [tenTo_eq, Nat.pow_add]

namespace Decimal

/-! ### Remainders -/

section Remainder

variable {r divisor : Nat}

/-- A remainder stays below its divisor. -/
theorem rest_div_lt_one (hr : r < divisor) : (r : ℚ) / divisor < 1 :=
  (div_lt_one (by exact_mod_cast Nat.zero_lt_of_lt hr)).mpr (by exact_mod_cast hr)

theorem half_le_div_iff (hpos : 0 < divisor) : (1 : ℚ) / 2 ≤ r / divisor ↔ divisor ≤ 2 * r := by
  rw [div_le_div_iff₀ (by norm_num) (by exact_mod_cast hpos), one_mul, mul_comm]
  exact_mod_cast Iff.rfl

theorem div_le_half_iff (hpos : 0 < divisor) : (r : ℚ) / divisor ≤ 1 / 2 ↔ 2 * r ≤ divisor := by
  rw [div_le_div_iff₀ (by exact_mod_cast hpos) (by norm_num), one_mul, mul_comm]
  exact_mod_cast Iff.rfl

end Remainder

/-! ### Values -/

variable {a b d : Decimal} {x : ℚ} {c : Int} {k scale : Nat}

/-- The number that a decimal stands for. -/
def value (d : Decimal) : ℚ := d.coefficient / 10 ^ d.scale

/-- A number for which some decimal stands. -/
def Representable (x : ℚ) : Prop := ∃ d : Decimal, d.value = x

@[simp]
theorem value_zero : zero.value = 0 := by simp [value, zero]

@[simp]
theorem value_one : one.value = 1 := by simp [value, one]

@[simp]
theorem value_neg (d : Decimal) : d.neg.value = -d.value := by
  simp [value, neg, neg_div]

theorem value_eq_zero : d.value = 0 ↔ d.coefficient = 0 := by
  simp [value]

theorem value_pos : 0 < d.value ↔ 0 < d.coefficient := by
  have hpow : (0 : ℚ) < 10 ^ d.scale := by positivity
  rw [value, div_pos_iff_of_pos_right hpow, Int.cast_pos]

theorem value_nonneg : 0 ≤ d.value ↔ 0 ≤ d.coefficient := by
  rw [value, le_div_iff₀ (by positivity), zero_mul]
  exact Int.cast_nonneg_iff

/-- A coefficient and a scale in range make a decimal. -/
theorem ofParts?_eq_some :
    ofParts? c scale = some d ↔ d.coefficient = c ∧ d.scale = scale := by
  rw [ofParts?]
  split
  case isTrue h =>
    rw [Option.some_inj]
    constructor
    · rintro rfl
      exact ⟨rfl, rfl⟩
    · rintro ⟨rfl, rfl⟩
      rfl
  case isFalse h =>
    refine iff_of_false (nofun) ?_
    rintro ⟨rfl, rfl⟩
    exact h ⟨d.coefficient_lt, d.scale_le⟩

theorem value_of_ofParts? (h : ofParts? c scale = some d) : d.value = c / 10 ^ scale := by
  obtain ⟨rfl, rfl⟩ := ofParts?_eq_some.mp h
  rfl

theorem exists_ofParts? (hc : c.natAbs < twoTo 96) (hscale : scale ≤ 28) :
    ∃ d, ofParts? c scale = some d :=
  ⟨⟨c, scale, hc, hscale⟩, ofParts?_eq_some.mpr ⟨rfl, rfl⟩⟩

theorem representable_div (hc : c.natAbs < twoTo 96) (hscale : scale ≤ 28) :
    Representable (c / 10 ^ scale) :=
  ⟨⟨c, scale, hc, hscale⟩, rfl⟩

/-- A number below `10 ^ k` with `l` fraction digits is a decimal if both together are at most
28. -/
theorem representable_of_mul_eq {l : Nat} {m : Int} (hm : x * 10 ^ l = m) (hx : |x| ≤ 10 ^ k)
    (hkl : k + l ≤ 28) : Representable x := by
  have hpos : (0 : ℚ) < 10 ^ l := by positivity
  have habs : |(m : ℚ)| ≤ 10 ^ 28 := by
    calc |(m : ℚ)| = |x| * 10 ^ l := by rw [← hm, abs_mul, abs_of_pos hpos]
      _ ≤ 10 ^ k * 10 ^ l := mul_le_mul_of_nonneg_right hx hpos.le
      _ = 10 ^ (k + l) := (pow_add _ _ _).symm
      _ ≤ 10 ^ 28 := pow_le_pow_right₀ (by norm_num) hkl
  have hlt : m.natAbs < twoTo 96 := by
    have hle : |m| ≤ 10 ^ 28 := by exact_mod_cast habs
    rw [Int.abs_eq_natAbs] at hle
    rw [twoTo_ninetySix]
    omega
  rw [eq_div_of_mul_eq hpos.ne' hm]
  exact representable_div hlt (by omega)

/-- A decimal other than zero is not closer to zero than the last fraction digit. -/
theorem Representable.le_abs (h : Representable x) (hx : x ≠ 0) : 1 / 10 ^ 28 ≤ |x| := by
  obtain ⟨d, rfl⟩ := h
  have hne : d.coefficient ≠ 0 := fun hzero => hx (value_eq_zero.mpr hzero)
  have hone : (1 : ℚ) ≤ |(d.coefficient : ℚ)| := by
    exact_mod_cast Int.one_le_abs hne
  have hpow : (10 : ℚ) ^ d.scale ≤ 10 ^ 28 := pow_le_pow_right₀ (by norm_num) d.scale_le
  rw [value, abs_div, abs_of_pos (by positivity : (0 : ℚ) < 10 ^ d.scale)]
  exact div_le_div₀ (abs_nonneg _) hone (by positivity) hpow

theorem cast_signed (negative : Bool) (n : Nat) :
    ((signed negative n : Int) : ℚ) = if negative then -(n : ℚ) else n := by
  cases negative <;> simp [signed]

/-- The absolute value of a decimal. -/
theorem magnitude_div (d : Decimal) : (d.magnitude : ℚ) / 10 ^ d.scale = |d.value| := by
  rw [value, abs_div, abs_of_pos (by positivity : (0 : ℚ) < 10 ^ d.scale), magnitude,
    Nat.cast_natAbs, Int.cast_abs]

theorem natAbs_signed (negative : Bool) (n : Nat) : (signed negative n).natAbs = n := by
  cases negative <;> simp [signed]

/-! ### Making room -/

/-- Nothing is rounded where only zeros are dropped. -/
theorem roundHalfEven_mul_tenTo (n k : Nat) : roundHalfEven (n * tenTo k) k = n := by
  have hpos := tenTo_pos k
  rw [roundHalfEven, Nat.mul_div_cancel _ hpos, Nat.mul_mod_left]
  exact if_neg (by omega)

/-- A coefficient whose number is a decimal is one of 96 bits with zeros behind it. -/
private theorem exists_eq_mul_tenTo (h : Representable (c / 10 ^ scale)) :
    ∃ (c₀ : Int) (k : Nat), k ≤ scale ∧ scale - k ≤ 28 ∧ c₀.natAbs < twoTo 96 ∧
      c = c₀ * tenTo k := by
  obtain ⟨d, hd⟩ := h
  have hpow : ∀ n : Nat, (10 : ℚ) ^ n ≠ 0 := fun n => by positivity
  have hscale := d.scale_le
  rw [value, div_eq_div_iff (hpow _) (hpow _)] at hd
  rcases le_total d.scale scale with hle | hle
  · refine ⟨d.coefficient, scale - d.scale, by omega, by omega, d.coefficient_lt, ?_⟩
    obtain ⟨k, rfl⟩ := Nat.exists_eq_add_of_le hle
    rw [pow_add, ← mul_assoc, mul_right_comm, mul_left_inj' (hpow _)] at hd
    rw [Nat.add_sub_cancel_left]
    have hcast : (c : ℚ) = ((d.coefficient * tenTo k : Int) : ℚ) := by
      push_cast
      rw [cast_tenTo, hd]
    exact_mod_cast hcast
  · -- the decimal has further fraction digits, so the coefficient itself is in range
    obtain ⟨k, hk⟩ := Nat.exists_eq_add_of_le hle
    rw [hk, pow_add, mul_comm (10 ^ scale : ℚ), ← mul_assoc, mul_left_inj' (hpow _)] at hd
    have hcoefficient : d.coefficient = c * tenTo k := by
      have hcast : (d.coefficient : ℚ) = ((c * tenTo k : Int) : ℚ) := by
        push_cast
        rw [cast_tenTo, hd]
      exact_mod_cast hcast
    have hlt := d.coefficient_lt
    rw [hcoefficient, Int.natAbs_mul, Int.natAbs_natCast] at hlt
    have hle' : c.natAbs ≤ c.natAbs * tenTo k := Nat.le_mul_of_pos_right _ (tenTo_pos k)
    exact ⟨c, 0, by omega, by omega, by omega, by simp [tenTo_eq]⟩

/-- Dropping zeros at the end of a coefficient changes nothing. -/
private theorem shortened_eq (c : Int) (k scale : Nat) :
    ofParts? (signed (decide (c * tenTo k < 0)) (roundHalfEven (c * tenTo k).natAbs k)) scale =
      ofParts? c scale := by
  have hpos : (0 : Int) < tenTo k := by exact_mod_cast tenTo_pos k
  have hneg : c * tenTo k < 0 ↔ c < 0 :=
    ⟨fun h => neg_of_mul_neg_left h hpos.le, fun h => mul_neg_of_neg_of_pos h hpos⟩
  rw [Int.natAbs_mul, Int.natAbs_natCast, roundHalfEven_mul_tenTo, decide_eq_decide.mpr hneg,
    signed_natAbs]

theorem mem_drop_range {n m : Nat} : k ∈ (List.range n).drop m ↔ m ≤ k ∧ k < n := by
  rw [List.range_eq_range', List.drop_range', List.mem_range'_1]
  omega

/-- A result that is a decimal is found exactly. -/
theorem exists_fit? (h : Representable (c / 10 ^ scale)) :
    ∃ d, fit? c scale = some d ∧ d.value = c / 10 ^ scale := by
  obtain ⟨c₀, k, hk, hscale, hc₀, rfl⟩ := exists_eq_mul_tenTo h
  obtain ⟨d₀, hd₀⟩ := exists_ofParts? hc₀ hscale
  have hfound : (fit? (c₀ * tenTo k) scale).isSome := by
    rw [fit?, List.isSome_findSome?, List.any_eq_true]
    refine ⟨k, mem_drop_range.mpr (by omega), ?_⟩
    rw [shortened_eq, hd₀, Option.isSome_some]
  obtain ⟨d, hd⟩ := Option.isSome_iff_exists.mp hfound
  refine ⟨d, hd, ?_⟩
  obtain ⟨before, j, after, hsplit, hj, hnone⟩ := List.findSome?_eq_some_iff.mp hd
  -- the search stops at the latest where all zeros are dropped
  have hjk : j ≤ k := by
    have hmem : k ∈ before ++ j :: after := by
      rw [← hsplit]
      exact mem_drop_range.mpr (by omega)
    have hsorted : (before ++ j :: after).Pairwise (· < ·) := by
      rw [← hsplit]
      exact List.pairwise_lt_range.sublist (List.drop_sublist _ _)
    rcases List.mem_append.mp hmem with hbefore | hafter
    · have hnone := hnone k hbefore
      rw [shortened_eq, hd₀] at hnone
      exact nomatch hnone
    · rcases List.mem_cons.mp hafter with rfl | hafter
      · exact le_refl _
      · exact (List.rel_of_pairwise_cons (List.pairwise_append.mp hsorted).2.1 hafter).le
  obtain ⟨m, rfl⟩ := Nat.exists_eq_add_of_le' hjk
  have hcoefficient : c₀ * tenTo (m + j) = c₀ * tenTo m * tenTo j := by
    rw [tenTo_add]
    push_cast
    ring
  rw [hcoefficient, shortened_eq] at hj
  rw [value_of_ofParts? hj, hcoefficient]
  obtain ⟨n, rfl⟩ := Nat.exists_eq_add_of_le' (by omega : j ≤ scale)
  rw [Nat.add_sub_cancel, pow_add]
  push_cast
  rw [cast_tenTo, cast_tenTo, mul_div_mul_right _ _ (by positivity : (10 : ℚ) ^ j ≠ 0)]

/-! ### Sums, differences and products -/

/-- The sum of two coefficients that are brought to one scale. -/
theorem sum_div (a b : Decimal) :
    ((a.coefficient * tenTo (max a.scale b.scale - a.scale) +
        b.coefficient * tenTo (max a.scale b.scale - b.scale) : Int) : ℚ) /
      10 ^ max a.scale b.scale = a.value + b.value := by
  obtain ⟨k, hk⟩ := Nat.exists_eq_add_of_le (le_max_left a.scale b.scale)
  obtain ⟨l, hl⟩ := Nat.exists_eq_add_of_le (le_max_right a.scale b.scale)
  rw [value, value, Int.cast_add, add_div]
  congr 1
  · rw [hk, Nat.add_sub_cancel_left]
    push_cast
    rw [cast_tenTo, pow_add, mul_div_mul_right _ _ (by positivity)]
  · rw [hl, Nat.add_sub_cancel_left]
    push_cast
    rw [cast_tenTo, pow_add, mul_div_mul_right _ _ (by positivity)]

/-- The product of two coefficients, with the digits behind the point of both. -/
theorem product_div (a b : Decimal) :
    ((a.coefficient * b.coefficient : Int) : ℚ) / 10 ^ (a.scale + b.scale) =
      a.value * b.value := by
  rw [value, value, div_mul_div_comm, pow_add]
  push_cast
  rfl

/-- A sum that is a decimal is exact. -/
theorem exists_add? (h : Representable (a.value + b.value)) :
    ∃ d, a.add? b = some d ∧ d.value = a.value + b.value := by
  rw [add?]
  split
  case isTrue ha => exact ⟨b, rfl, by rw [value_eq_zero.mpr ha, zero_add]⟩
  case isFalse ha =>
    split
    case isTrue hb => exact ⟨a, rfl, by rw [value_eq_zero.mpr hb, add_zero]⟩
    case isFalse hb =>
      rw [← sum_div] at h ⊢
      exact exists_fit? h

/-- A difference that is a decimal is exact. -/
theorem exists_sub? (h : Representable (a.value - b.value)) :
    ∃ d, a.sub? b = some d ∧ d.value = a.value - b.value := by
  rw [sub_eq_add_neg, ← value_neg] at h ⊢
  exact exists_add? h

/-- Two short coefficients that far below the last fraction digit make next to nothing. -/
theorem abs_mul_lt_of_short (ha : a.magnitude < twoTo 32) (hb : b.magnitude < twoTo 32)
    (hscale : 47 < a.scale + b.scale) : |a.value * b.value| < 1 / 10 ^ 28 := by
  have hproduct : a.magnitude * b.magnitude < twoTo 32 * twoTo 32 := Nat.mul_lt_mul'' ha hb
  calc |a.value * b.value| ≤ (twoTo 32 * twoTo 32 : Nat) / 10 ^ 48 := by
        rw [← product_div, abs_div, abs_of_pos (by positivity : (0 : ℚ) < 10 ^ (a.scale + b.scale))]
        refine div_le_div₀ (by positivity) ?_ (by positivity)
          (pow_le_pow_right₀ (by norm_num) (by omega))
        rw [← Int.cast_abs, Int.abs_eq_natAbs, Int.natAbs_mul]
        exact_mod_cast hproduct.le
    _ < 1 / 10 ^ 28 := by norm_num [twoTo]

/-- A product that is a decimal is exact. -/
theorem exists_mul? (h : Representable (a.value * b.value)) :
    ∃ d, a.mul? b = some d ∧ d.value = a.value * b.value := by
  rw [mul?]
  split
  case isTrue hzero =>
    refine ⟨zero, rfl, ?_⟩
    rw [← value_eq_zero, ← value_eq_zero (d := b), ← mul_eq_zero] at hzero
    rw [hzero, value_zero]
  case isFalse hzero =>
    rw [not_or] at hzero
    split
    case isTrue hsmall =>
      -- next to nothing is no decimal
      obtain ⟨ha, hb, hscale⟩ := hsmall
      have hne : a.value * b.value ≠ 0 :=
        mul_ne_zero (mt value_eq_zero.mp hzero.1) (mt value_eq_zero.mp hzero.2)
      exact absurd (abs_mul_lt_of_short ha hb hscale) (not_lt.mpr (h.le_abs hne))
    case isFalse hsmall =>
      rw [← product_div] at h ⊢
      exact exists_fit? h

/-! ### Trailing zeros -/

/-- Each zero that is removed takes a fraction digit with it. -/
theorem stripZeros_div (n scale : Nat) :
    ((stripZeros n scale).1 : ℚ) / 10 ^ (stripZeros n scale).2 = n / 10 ^ scale := by
  fun_induction stripZeros n scale with
  | case1 n => rfl
  | case2 n scale hzero ih =>
    have hten : (n : ℚ) = (n / 10 : Nat) * 10 := by
      exact_mod_cast (Nat.div_mul_cancel (Nat.dvd_of_mod_eq_zero hzero)).symm
    rw [ih, hten, pow_succ, mul_div_mul_right _ _ (by norm_num)]
  | case3 n scale hdigit => rfl

theorem stripZeros_le (n scale : Nat) :
    (stripZeros n scale).1 ≤ n ∧ (stripZeros n scale).2 ≤ scale := by
  fun_induction stripZeros n scale with
  | case1 n => exact ⟨le_rfl, le_rfl⟩
  | case2 n scale hzero ih =>
    exact ⟨ih.1.trans (Nat.div_le_self n 10), ih.2.trans (Nat.le_succ scale)⟩
  | case3 n scale hdigit => exact ⟨le_rfl, le_rfl⟩

/-- **Trailing zeros.** Removing trailing zeros leaves the number as it is. -/
@[simp]
theorem value_normalize (d : Decimal) : d.normalize.value = d.value := by
  obtain ⟨hn, hscale⟩ := stripZeros_le d.magnitude d.scale
  have hdiv := stripZeros_div d.magnitude d.scale
  obtain ⟨e, he⟩ := exists_ofParts? (c := signed d.isNegative (stripZeros d.magnitude d.scale).1)
    (by rw [natAbs_signed]; exact hn.trans_lt d.coefficient_lt) (hscale.trans d.scale_le)
  have hsigned : d.coefficient = signed d.isNegative d.magnitude := (signed_natAbs _).symm
  rw [normalize]
  dsimp only
  rw [he, Option.getD_some, value_of_ofParts? he, value, hsigned, cast_signed, cast_signed]
  split
  case isTrue => rw [neg_div, hdiv, neg_div]
  case isFalse => exact hdiv

end Decimal

end InvoiceFields
