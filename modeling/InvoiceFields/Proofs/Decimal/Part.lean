import InvoiceFields.Proofs.Decimal.Quotient

/-!
# Quotients as parts

What a quotient is rounded to depends on the fraction digits that fit. A quotient that is a decimal
is exact (`value_of_div?`), any other one the closer the smaller it is (`eq_or_close_of_div?`). A
quotient by a number of one or more is a part of what is divided (`isPart_of_div?`), and by a number
of at most two it leaves a rest that is exact (`exists_sub?_quotient`): the two make the whole up,
whatever was rounded.
-/

namespace InvoiceFields.Decimal

variable {a b d : Decimal} {x y : ℚ} {n : Int} {places : Nat}

/-! ### How many digits fit -/

/-- With as many fraction digits as a decimal has, or more, it is an integer. -/
theorem value_mul_of_scale_le (h : d.scale ≤ places) :
    ∃ m : Int, d.value * 10 ^ places = m := by
  obtain ⟨k, rfl⟩ := Nat.exists_eq_add_of_le h
  refine ⟨d.coefficient * 10 ^ k, ?_⟩
  rw [value, pow_add, ← mul_assoc, div_mul_cancel₀ _ (by positivity)]
  push_cast
  rfl

/-- Rounding does not go below a number with the same fraction digits. -/
theorem Rounded.le_div {m : Int} (h : Rounded x n places) (hm : y * 10 ^ places = m)
    (hyx : y ≤ x) : y ≤ n / 10 ^ places := by
  have hpow : (0 : ℚ) < 10 ^ places := by positivity
  have hmul := mul_le_mul_of_nonneg_right hyx hpow.le
  rw [le_div_iff₀ hpow]
  rcases h with heq | ⟨hnear, -⟩
  · rwa [heq]
  · rw [hm] at hmul ⊢
    have hlt : (m : ℚ) < n + 1 := by linarith [(abs_le.mp hnear).1]
    exact_mod_cast Int.lt_add_one_iff.mp (by exact_mod_cast hlt)

/-- Rounding does not go above a number with the same fraction digits. -/
theorem Rounded.div_le {m : Int} (h : Rounded x n places) (hm : y * 10 ^ places = m)
    (hxy : x ≤ y) : n / 10 ^ places ≤ y := by
  have hle := h.neg.le_div (y := -y) (m := -m) (by push_cast; rw [← hm, neg_mul])
    (neg_le_neg hxy)
  rw [Int.cast_neg, neg_div] at hle
  exact neg_le_neg_iff.mp hle

/-- A number that is at most a decimal is rounded to no fewer fraction digits than that has. -/
theorem Rounded.eq_or_scale_le (h : Rounded x n places) (hx : |x| ≤ |d.value|) :
    n / 10 ^ places = x ∨ d.scale ≤ places := by
  have hpow : ∀ k : Nat, (0 : ℚ) < 10 ^ k := fun k => by positivity
  rcases h with heq | ⟨-, rfl | hout⟩
  · exact .inl (by rw [heq, mul_div_cancel_right₀ _ (hpow _).ne'])
  · exact .inr d.scale_le
  · right
    by_contra hlt
    have hshift : |x * 10 ^ (places + 1)| ≤ |(d.coefficient : ℚ)| := by
      calc |x * 10 ^ (places + 1)| = |x| * 10 ^ (places + 1) := by
            rw [abs_mul, abs_of_pos (hpow (places + 1))]
        _ ≤ |d.value| * 10 ^ d.scale := mul_le_mul hx
            (pow_le_pow_right₀ (by norm_num) (by omega)) (hpow _).le (abs_nonneg _)
        _ = |(d.coefficient : ℚ)| := by
            rw [value, abs_div, abs_of_pos (hpow d.scale), div_mul_cancel₀ _ (hpow _).ne']
    exact not_outOfRange_of_abs_le d.abs_coefficient_le (hout.mono hshift)

/-- A number that is a decimal is not rounded. -/
theorem Rounded.eq_of_representable (h : Rounded x n places) (hx : Representable x) :
    n / 10 ^ places = x := by
  obtain ⟨d, rfl⟩ := hx
  rcases h.eq_or_scale_le le_rfl with heq | hscale
  · exact heq
  · obtain ⟨m, hm⟩ := value_mul_of_scale_le hscale
    exact le_antisymm (h.div_le hm le_rfl) (h.le_div hm le_rfl)

/-- A quotient that is a decimal is exact. -/
theorem value_of_div? (hd : a.div? b = some d) (h : Representable (a.value / b.value)) :
    d.value = a.value / b.value := by
  obtain ⟨n, places, -, hvalue, hrounded⟩ := rounded_of_div? hd
  exact hvalue.trans (hrounded.eq_of_representable h)

/-- A number below a power of ten leaves room for the other digits. -/
theorem Rounded.eq_or_close {k : Nat} (h : Rounded x n places) (hx : |x| ≤ 10 ^ k) :
    n / 10 ^ places = x ∨ |n / 10 ^ places - x| ≤ 1 / 2 / 10 ^ (28 - k) := by
  have hpow : ∀ k : Nat, (0 : ℚ) < 10 ^ k := fun k => by positivity
  rcases h with heq | ⟨hnear, hfull⟩
  · exact .inl (by rw [heq, mul_div_cancel_right₀ _ (hpow _).ne'])
  · right
    have hplaces : 28 - k ≤ places := by
      rcases hfull with rfl | hout
      · exact Nat.sub_le 28 k
      · by_contra hlt
        refine not_outOfRange_of_abs_le ?_ hout
        calc |x * 10 ^ (places + 1)| = |x| * 10 ^ (places + 1) := by
              rw [abs_mul, abs_of_pos (hpow (places + 1))]
          _ ≤ 10 ^ k * 10 ^ (places + 1) := mul_le_mul_of_nonneg_right hx (hpow _).le
          _ = 10 ^ (k + (places + 1)) := (pow_add _ _ _).symm
          _ ≤ 10 ^ 28 := pow_le_pow_right₀ (by norm_num) (by omega)
          _ ≤ 2 ^ 96 - 1 := by norm_num
    calc |n / 10 ^ places - x| = |n - x * 10 ^ places| / 10 ^ places := by
          rw [← abs_of_pos (hpow places), ← abs_div, abs_of_pos (hpow places), sub_div,
            mul_div_cancel_right₀ _ (hpow _).ne']
      _ ≤ 1 / 2 / 10 ^ (28 - k) := div_le_div₀ (by norm_num) hnear (hpow _)
          (pow_le_pow_right₀ (by norm_num) hplaces)

/-- A quotient below a power of ten is exact, or as close as the other digits allow. -/
theorem eq_or_close_of_div? {k : Nat} (hd : a.div? b = some d)
    (hx : |a.value / b.value| ≤ 10 ^ k) :
    d.value = a.value / b.value ∨ |d.value - a.value / b.value| ≤ 1 / 2 / 10 ^ (28 - k) := by
  obtain ⟨n, places, -, hvalue, hrounded⟩ := rounded_of_div? hd
  rw [hvalue]
  exact hrounded.eq_or_close hx

/-! ### The parts of a decimal

Divided by a number between one and two, a decimal falls into the quotient and a rest. -/

/-- A number is between zero and another one: it has its sign or is zero, and it is not larger in
absolute value. -/
def IsPart (x y : ℚ) : Prop := 0 ≤ x ∧ x ≤ y ∨ y ≤ x ∧ x ≤ 0

theorem IsPart.sub (h : IsPart x y) : IsPart (y - x) y := by
  rcases h with ⟨hx, hxy⟩ | ⟨hyx, hx⟩
  · exact .inl ⟨by linarith, by linarith⟩
  · exact .inr ⟨by linarith, by linarith⟩

theorem IsPart.abs_le (h : IsPart x y) : |x| ≤ |y| := by
  rcases h with ⟨hx, hxy⟩ | ⟨hyx, hx⟩
  · exact abs_le_abs_of_nonneg hx hxy
  · exact abs_le_abs_of_nonpos hx hyx

/-- What is rounded from a part of a decimal is a part of it too. -/
theorem Rounded.isPart (h : Rounded x n places) (hx : IsPart x a.value) :
    IsPart (n / 10 ^ places) a.value := by
  have hzero : (0 : ℚ) * 10 ^ places = (0 : Int) := by simp
  rcases h.eq_or_scale_le hx.abs_le with heq | hscale
  · rwa [heq]
  · obtain ⟨m, hm⟩ := value_mul_of_scale_le hscale
    rcases hx with ⟨h0, hx⟩ | ⟨hx, h0⟩
    · exact .inl ⟨h.le_div hzero h0, h.div_le hm hx⟩
    · exact .inr ⟨h.le_div hm hx, h.div_le hzero h0⟩

theorem isPart_div (hy : 1 ≤ y) (x : ℚ) : IsPart (x / y) x := by
  rcases le_total 0 x with hx | hx
  · exact .inl ⟨by positivity, div_le_self hx hy⟩
  · have hself := div_le_self (neg_nonneg.mpr hx) hy
    rw [neg_div] at hself
    exact .inr ⟨by linarith, div_nonpos_of_nonpos_of_nonneg hx (by linarith)⟩

/-- A quotient by a number of one or more is a part of what is divided. -/
theorem isPart_of_div? (hb : 1 ≤ b.value) (h : a.div? b = some d) : IsPart d.value a.value := by
  obtain ⟨n, places, -, hvalue, hrounded⟩ := rounded_of_div? h
  rw [hvalue]
  exact hrounded.isPart (isPart_div hb _)

/-- What is divided by a number of one or more stays in range. -/
theorem exists_div?_of_one_le (hb : 1 ≤ b.value) (a : Decimal) : ∃ d, a.div? b = some d :=
  exists_div? (by linarith)
    (not_outOfRange_of_abs_le ((isPart_div hb a.value).abs_le.trans a.abs_value_le))

/-- What is left of a decimal behind a part with no more fraction digits is a decimal. -/
theorem representable_sub_of_scale_le (hplaces : places ≤ a.scale) (hx : x * 10 ^ places = n)
    (hle : |a.value - x| ≤ |a.value|) : Representable (a.value - x) := by
  obtain ⟨k, hk⟩ := Nat.exists_eq_add_of_le hplaces
  have hpow : (0 : ℚ) < 10 ^ a.scale := by positivity
  have hcoefficient : a.value * 10 ^ a.scale = a.coefficient := div_mul_cancel₀ _ hpow.ne'
  have hwhole : (a.value - x) * 10 ^ a.scale = (a.coefficient - n * 10 ^ k : Int) := by
    rw [sub_mul, hcoefficient, hk, pow_add, ← mul_assoc, hx]
    push_cast
    rfl
  have hlt : (a.coefficient - n * 10 ^ k).natAbs < twoTo 96 := by
    refine lt_of_le_of_lt ?_ a.coefficient_lt
    have habs : |((a.coefficient - n * 10 ^ k : Int) : ℚ)| ≤ |(a.coefficient : ℚ)| := by
      rw [← hwhole, ← hcoefficient, abs_mul, abs_mul]
      exact mul_le_mul_of_nonneg_right hle (abs_nonneg _)
    have habs' : |a.coefficient - n * 10 ^ k| ≤ |a.coefficient| := by exact_mod_cast habs
    rwa [Int.abs_eq_natAbs, Int.abs_eq_natAbs, Int.ofNat_le] at habs'
  rw [eq_div_of_mul_eq hpow.ne' hwhole]
  exact representable_div hlt a.scale_le

/-- What is left of a decimal behind a part is a decimal when it is not larger than either. -/
theorem representable_sub (ha : |a.value - d.value| ≤ |a.value|)
    (hd : |a.value - d.value| ≤ |d.value|) : Representable (a.value - d.value) := by
  have hcoefficient : ∀ d : Decimal, d.value * 10 ^ d.scale = d.coefficient := fun d =>
    div_mul_cancel₀ _ (by positivity)
  rcases le_total d.scale a.scale with hscale | hscale
  · exact representable_sub_of_scale_le hscale (hcoefficient d) ha
  · obtain ⟨e, he⟩ := representable_sub_of_scale_le hscale (hcoefficient a)
      (by rwa [abs_sub_comm])
    exact ⟨e.neg, by rw [value_neg, he, neg_sub]⟩

/-- The rest of a decimal behind its quotient by a number from one to two is exact. -/
theorem exists_sub?_quotient (hone : 1 ≤ b.value) (htwo : b.value ≤ 2) (h : a.div? b = some d) :
    ∃ rest, a.sub? d = some rest ∧ rest.value = a.value - d.value := by
  apply exists_sub?
  have hpart := isPart_of_div? hone h
  obtain ⟨n, places, -, hvalue, hrounded⟩ := rounded_of_div? h
  rcases le_or_gt places a.scale with hplaces | hplaces
  · refine representable_sub_of_scale_le hplaces (n := n) ?_ hpart.sub.abs_le
    rw [hvalue, div_mul_cancel₀ _ (by positivity)]
  · -- half of the decimal has no further fraction digits, so the quotient is not less than that
    obtain ⟨k, rfl⟩ := Nat.exists_eq_add_of_lt hplaces
    have hhalf : a.value / 2 * 10 ^ (a.scale + k + 1) = (a.coefficient * 5 * 10 ^ k : Int) := by
      rw [value, pow_succ, pow_add]
      push_cast
      field_simp
      ring
    refine representable_sub hpart.sub.abs_le ?_
    rcases hpart with ⟨hd, hda⟩ | ⟨had, hd⟩
    · have hle := hrounded.le_div hhalf
        (div_le_div_of_nonneg_left (hd.trans hda) (by linarith) htwo)
      rw [← hvalue] at hle
      exact abs_le_abs_of_nonneg (by linarith) (by linarith)
    · have hquotient : a.value / b.value ≤ a.value / 2 := by
        rw [div_le_div_iff₀ (by linarith) (by norm_num)]
        exact mul_le_mul_of_nonpos_left htwo (had.trans hd)
      have hle := hrounded.div_le hhalf hquotient
      rw [← hvalue] at hle
      exact abs_le_abs_of_nonpos (by linarith) (by linarith)

end InvoiceFields.Decimal
