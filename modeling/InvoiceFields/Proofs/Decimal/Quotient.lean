import InvoiceFields.Decimal.Quotient
import InvoiceFields.Proofs.Decimal.Range

/-!
# How near quotients are

Long division ends with the exact quotient or where no further digit fits, and then the rest is
rounded to the nearest. `rounded_of_div?` says so of the quotient of two decimals, and `exists_div?`
that a quotient in range is found.
-/

namespace InvoiceFields.Decimal

/-- A coefficient with `places` fraction digits stands for a number, or it is the nearest one and a
further digit would bring the number out of range. -/
def Rounded (x : ℚ) (n : Int) (places : Nat) : Prop :=
  (n : ℚ) = x * 10 ^ places ∨
    |(n : ℚ) - x * 10 ^ places| ≤ 1 / 2 ∧ (places = 28 ∨ OutOfRange (x * 10 ^ (places + 1)))

variable {a b d : Decimal} {x y : ℚ} {n : Int} {places : Nat}

theorem Rounded.neg (h : Rounded x n places) : Rounded (-x) (-n) places := by
  have hdiff : -(n : ℚ) - -x * 10 ^ places = -(n - x * 10 ^ places) := by ring
  rcases h with h | ⟨hnear, hfull⟩
  · exact .inl (by push_cast; rw [h]; ring)
  · exact .inr ⟨by push_cast; rwa [hdiff, abs_neg], by rwa [neg_mul, outOfRange_neg]⟩

/-! ### Long division

The quotient so far and its remainder make up the whole: `q + r / divisor = x * 10 ^ scale`. -/

section Extend

variable {divisor q r m : Nat} {scale s : Int} {inexact extended e : Bool}

private theorem stepBack?_eq_some :
    stepBack? q scale inexact = some (m, s) ↔ 1 ≤ scale ∧ s = scale - 1 ∧
      m = if 5 < q % 10 ∨ (q % 10 = 5 ∧ (inexact ∨ q / 10 % 2 = 1)) then q / 10 + 1
        else q / 10 := by
  rw [stepBack?]
  split
  case isTrue h => exact iff_of_false nofun (by omega)
  case isFalse h =>
    simp only [Option.some.injEq, Prod.mk.injEq]
    constructor
    · rintro ⟨rfl, rfl⟩
      exact ⟨by omega, rfl, rfl⟩
    · rintro ⟨-, rfl, rfl⟩
      exact ⟨rfl, rfl⟩

/-- What a step of long division ends with: a coefficient that is as near as can be. -/
private def Ends (x : ℚ) (m : Nat) (s : Int) : Prop :=
  m < twoTo 96 ∧ 0 ≤ s ∧ s ≤ 28 ∧ Rounded x m s.toNat

private theorem zpow_eq (hs : 0 ≤ s) : (10 : ℚ) ^ s = 10 ^ s.toNat := by
  rw [← zpow_natCast, Int.toNat_of_nonneg hs]

/-- A coefficient with one digit less is near when ten times as much is near. -/
private theorem ends_of_tenth {y : ℚ} (hy : y = x * 10 ^ scale) (hm : m < twoTo 96)
    (hone : 1 ≤ scale) (hscale : scale ≤ 28) (hnear : |10 * (m : ℚ) - y| ≤ 5)
    (hfull : OutOfRange y) : Ends x m (scale - 1) := by
  have hs : 0 ≤ scale - 1 := by omega
  have htenth : 10 * ((m : ℚ) - x * 10 ^ (scale - 1).toNat) = 10 * m - y := by
    rw [hy, ← zpow_eq hs, zpow_sub_one₀ (by norm_num)]
    ring
  have hnext : x * 10 ^ ((scale - 1).toNat + 1) = y := by
    rw [hy, ← zpow_natCast, Nat.cast_succ, Int.toNat_of_nonneg hs, Int.sub_add_cancel]
  refine ⟨hm, hs, by omega, .inr ⟨?_, .inr (hnext ▸ hfull)⟩⟩
  rw [← htenth, abs_mul, abs_of_pos (by norm_num : (0 : ℚ) < 10)] at hnear
  push_cast
  linarith

/-- A coefficient of more than 96 bits is out of range. -/
private theorem outOfRange_of_le {y : ℚ} (hq : twoTo 96 ≤ q) (hlow : (q : ℚ) ≤ y) :
    OutOfRange y := by
  have hcast : (2 : ℚ) ^ 96 ≤ q := by
    rw [twoTo_ninetySix] at hq
    norm_num
    exact_mod_cast hq
  rw [OutOfRange, abs_of_nonneg ((Nat.cast_nonneg q).trans hlow)]
  linarith

/-- A coefficient that left its range comes back by one digit. -/
private theorem ends_of_stepBack? {y : ℚ} (hy : y = x * 10 ^ scale) (hscale : scale ≤ 28)
    (hlow : (q : ℚ) ≤ y) (hhigh : y < q + 1) (hinexact : inexact = true ∨ y = q)
    (hq : twoTo 96 ≤ q) (hlt : q < 2 * twoTo 96) (h : stepBack? q scale inexact = some (m, s)) :
    Ends x m s := by
  obtain ⟨hone, rfl, hm⟩ := stepBack?_eq_some.mp h
  have hstep : -4 ≤ (10 * m - q : Int) ∧ (10 * m - q : Int) ≤ 5 ∨
      (10 * m - q : Int) = -5 ∧ inexact = false := by
    split at hm
    case isTrue hup => omega
    case isFalse hdown =>
      rw [not_or, not_and_or] at hdown
      obtain ⟨hle, hne | heven⟩ := hdown
      · left
        omega
      · rw [not_or, Bool.not_eq_true] at heven
        by_cases hfive : q % 10 = 5
        · exact .inr ⟨by omega, heven.1⟩
        · left
          omega
  have hnear : |10 * (m : ℚ) - y| ≤ 5 := by
    rw [abs_le]
    rcases hstep with ⟨hge, hle⟩ | ⟨heq, hexact⟩
    · have hge' : (-4 : ℚ) ≤ 10 * m - q := by exact_mod_cast hge
      have hle' : (10 * m - q : ℚ) ≤ 5 := by exact_mod_cast hle
      constructor <;> linarith
    · have heq' : (10 * m - q : ℚ) = -5 := by exact_mod_cast heq
      have hy : y = q := hinexact.resolve_left (by simp [hexact])
      constructor <;> linarith
  have hm' : m < twoTo 96 := by
    rw [twoTo_ninetySix] at hlt ⊢
    omega
  exact ends_of_tenth hy hm' hone hscale hnear (outOfRange_of_le hq hlow)

/-- The largest coefficient comes back by one digit: ten goes into its successor with a rest of
six. -/
private theorem ends_of_top {y : ℚ} (hy : y = x * 10 ^ scale) (hscale : scale ≤ 28)
    (hlow : (q : ℚ) + 1 / 2 ≤ y) (hhigh : y < q + 1) (htop : q + 1 = twoTo 96)
    (h : stepBack? (q + 1) scale true = some (m, s)) : Ends x m s := by
  obtain ⟨hone, rfl, hm⟩ := stepBack?_eq_some.mp h
  rw [htop, twoTo_ninetySix] at hm
  norm_num at hm
  have hq : (q : ℚ) = 79228162514264337593543950335 := by
    rw [twoTo_ninetySix] at htop
    exact_mod_cast (by omega : q = 79228162514264337593543950335)
  rw [hq] at hlow hhigh
  have hnear : |10 * (m : ℚ) - y| ≤ 5 := by
    rw [hm, abs_le]
    push_cast
    constructor <;> linarith
  have hout : OutOfRange y := by
    rw [OutOfRange, abs_of_nonneg (by linarith)]
    norm_num
    linarith
  refine ends_of_tenth hy ?_ hone hscale hnear hout
  rw [hm, twoTo_ninetySix]
  norm_num

/-- A quotient that no further digit fits behind is rounded by its remainder. -/
private theorem ends_of_roundQuotient? (hx : (q : ℚ) + r / divisor = x * 10 ^ scale)
    (hr : r < divisor) (hq : q < twoTo 96) (hs : 0 ≤ scale) (hscale : scale ≤ 28)
    (hfull : scale = 28 ∨ twoTo 96 ≤ 10 * q)
    (h : roundQuotient? q r divisor scale = some (m, s)) : Ends x m s := by
  have hpos := Nat.zero_lt_of_lt hr
  have hnonneg : (0 : ℚ) ≤ r / divisor := by positivity
  have hfull' : scale.toNat = 28 ∨ OutOfRange (x * 10 ^ (scale.toNat + 1)) := by
    refine hfull.imp (fun heq => by omega) fun hle => outOfRange_of_le hle ?_
    rw [pow_succ, ← mul_assoc, ← zpow_eq hs, ← hx]
    push_cast
    linarith
  rw [roundQuotient?] at h
  split at h
  case isFalse hdown =>
    obtain ⟨rfl, rfl⟩ := Prod.mk.inj (Option.some.inj h)
    refine ⟨hq, hs, hscale, .inr ⟨?_, hfull'⟩⟩
    have hhalf := (div_le_half_iff hpos).mpr (by omega : 2 * r ≤ divisor)
    rw [← zpow_eq hs, ← hx, abs_le]
    push_cast
    constructor <;> linarith
  case isTrue hup =>
    have hhalf := (half_le_div_iff hpos).mpr (by omega : divisor ≤ 2 * r)
    have hone := rest_div_lt_one hr
    split at h
    case isTrue hroom =>
      obtain ⟨rfl, rfl⟩ := Prod.mk.inj (Option.some.inj h)
      refine ⟨hroom, hs, hscale, .inr ⟨?_, hfull'⟩⟩
      rw [← zpow_eq hs, ← hx, abs_le]
      push_cast
      constructor <;> linarith
    case isFalse htop =>
      exact ends_of_top hx hscale (by linarith) (by linarith) (by omega) h

/-- The digits for which there is room do fit. -/
private theorem mul_headroom_lt (hq : q < twoTo 96) (limit : Nat) :
    q * tenTo (headroom q limit) < twoTo 96 := by
  induction limit with
  | zero => rwa [headroom, tenTo_eq, Nat.pow_zero, Nat.mul_one]
  | succ limit ih =>
    rw [headroom]
    split
    case isTrue hfit => exact hfit
    case isFalse => exact ih

/-- A digit more than there is room for does not fit. -/
private theorem le_mul_headroom_succ {limit : Nat} (h : headroom q limit < limit) :
    twoTo 96 ≤ q * tenTo (headroom q limit + 1) := by
  induction limit with
  | zero => exact absurd h (Nat.not_lt_zero _)
  | succ limit ih =>
    rw [headroom] at h ⊢
    split
    case isTrue hfit => rw [if_pos hfit] at h; exact absurd h (Nat.lt_irrefl _)
    case isFalse hfull =>
      rcases (headroom_le q limit).lt_or_eq with hlt | heq
      · exact ih hlt
      · rwa [heq, ← not_lt]

/-- The quotient and its remainder, carried on by `k` digits. -/
private theorem carried_eq (hx : (q : ℚ) + r / divisor = x * 10 ^ scale) (hr : r < divisor)
    (k : Nat) : ((q * tenTo k + r * tenTo k / divisor : Nat) : ℚ) +
      (r * tenTo k % divisor : Nat) / divisor = x * 10 ^ (scale + k) := by
  have hpos : (divisor : ℚ) ≠ 0 := by exact_mod_cast Nat.ne_of_gt (Nat.zero_lt_of_lt hr)
  have hdiv : (r : ℚ) * 10 ^ k = divisor * (r * tenTo k / divisor : Nat) +
      (r * tenTo k % divisor : Nat) := by
    rw [← cast_tenTo]
    exact_mod_cast (Nat.div_add_mod (r * tenTo k) divisor).symm
  generalize r * tenTo k / divisor = p at hdiv ⊢
  generalize r * tenTo k % divisor = t at hdiv ⊢
  rw [zpow_add₀ (by norm_num), zpow_natCast, ← mul_assoc, ← hx]
  push_cast
  rw [cast_tenTo]
  field_simp
  linarith

/-- Digits for which there is room bring the coefficient little beyond its range. -/
private theorem carried_lt {limit : Nat} (hr : r < divisor) (hq : q < twoTo 96)
    (hlimit : limit ≤ 9) :
    q * tenTo (headroom q limit) + r * tenTo (headroom q limit) / divisor < 2 * twoTo 96 := by
  have hroom := mul_headroom_lt hq limit
  have hdigits : r * tenTo (headroom q limit) / divisor < tenTo (headroom q limit) := by
    rw [Nat.div_lt_iff_lt_mul (Nat.zero_lt_of_lt hr), Nat.mul_comm]
    exact Nat.mul_lt_mul_of_pos_left hr (tenTo_pos _)
  have hnine : tenTo (headroom q limit) ≤ 10 ^ 9 :=
    Nat.pow_le_pow_right (by decide) ((headroom_le q limit).trans hlimit)
  rw [twoTo_ninetySix] at hroom ⊢
  omega

private theorem eq_some_of_map {o : Option (Nat × Int)}
    (h : (o.map fun (n, s) => (n, s, true)) = some (m, s, e)) : o = some (m, s) := by
  obtain ⟨⟨m', s'⟩, rfl, heq⟩ := Option.map_eq_some_iff.mp h
  cases heq
  rfl

/-- Long division ends as near to the quotient as can be. -/
private theorem ends_of_extend? (hx : (q : ℚ) + r / divisor = x * 10 ^ scale)
    (hr : r < divisor) (hq : q < twoTo 96) (hscale : scale ≤ 28)
    (h : extend? divisor q r scale extended = some (m, s, e)) : Ends x m s := by
  fun_induction extend? divisor q r scale extended with
  | case1 q scale extended hnonneg =>
    -- the division comes out even
    cases h
    refine ⟨hq, hnonneg, hscale, .inl ?_⟩
    rw [← zpow_eq hnonneg, ← hx]
    simp
  | case2 q scale extended hneg k hfit ih =>
    have hcarried := carried_eq hx hr k
    rw [Nat.zero_mul, Nat.zero_div, Nat.zero_mod, Nat.add_zero] at hcarried
    exact ih hcarried hr hfit (by omega) h
  | case3 => exact nomatch h
  | case4 q r scale extended hrest hlast =>
    exact ends_of_roundQuotient? hx hr hq (by omega) hscale (.inl (by omega)) (eq_some_of_map h)
  | case5 => exact nomatch h
  | case6 q r scale extended hrest hlast k hroom hk =>
    have hfull : twoTo 96 ≤ q * tenTo (k + 1) := le_mul_headroom_succ (by omega)
    rw [hk, show tenTo (0 + 1) = 10 from rfl, Nat.mul_comm] at hfull
    exact ends_of_roundQuotient? hx hr hq (by omega) hscale (.inr hfull) (eq_some_of_map h)
  | case7 q r scale extended hrest hlast k hroom hk q' r' hfit ih =>
    have hk : k ≤ min 9 (28 - scale).toNat := headroom_le _ _
    exact ih (carried_eq hx hr k) (Nat.mod_lt _ (Nat.zero_lt_of_lt hr)) hfit (by omega) h
  | case8 q r scale extended hrest hlast k hroom hk q' r' hfit =>
    have hk : k ≤ min 9 (28 - scale).toNat := headroom_le _ _
    have hr' : r' < divisor := Nat.mod_lt _ (Nat.zero_lt_of_lt hr)
    have hone := rest_div_lt_one hr'
    have hnonneg : (0 : ℚ) ≤ r' / divisor := by positivity
    have hexact : decide (r' ≠ 0) = true ∨ (q' : ℚ) + r' / divisor = q' := by
      by_cases hzero : r' = 0
      · right
        rw [hzero, Nat.cast_zero, zero_div, add_zero]
      · exact .inl (decide_eq_true hzero)
    exact ends_of_stepBack? (carried_eq hx hr k) (by omega) (by linarith) (by linarith) hexact
      (not_lt.mp hfit) (carried_lt hr hq (by omega)) (eq_some_of_map h)

/-- A coefficient with digits to come in front of the point is too large when it is so with fewer
of them. -/
private theorem outOfRange_of_negative {k : Nat} (hx : (q : ℚ) + r / divisor = x * 10 ^ scale)
    (hk : scale + k ≤ 0) (hfull : twoTo 96 ≤ q * tenTo k) : OutOfRange x := by
  refine outOfRange_of_le hfull ?_
  have hpow : (10 : ℚ) ^ k ≤ 10 ^ (-scale) := by
    rw [← zpow_natCast]
    exact zpow_le_zpow_right₀ (by norm_num) (by omega)
  have hwhole : x = (q + r / divisor) * 10 ^ (-scale) := by
    rw [hx, mul_assoc, ← zpow_add₀ (by norm_num), Int.add_right_neg, zpow_zero, mul_one]
  have hle : (q : ℚ) ≤ q + r / divisor := le_add_of_nonneg_right (by positivity)
  rw [hwhole]
  push_cast
  rw [cast_tenTo]
  exact mul_le_mul hle hpow (by positivity) ((Nat.cast_nonneg q).trans hle)

private theorem exists_stepBack? (h : 1 ≤ scale) : ∃ p, stepBack? q scale inexact = some p := by
  rw [stepBack?, if_neg (by omega)]
  exact ⟨_, rfl⟩

/-- A quotient in range has room when it is rounded. -/
private theorem exists_roundQuotient? (hx : (q : ℚ) + r / divisor = x * 10 ^ scale)
    (hr : r < divisor) (hq : q < twoTo 96) (hs : 0 ≤ scale) (hin : ¬ OutOfRange x) :
    ∃ p, roundQuotient? q r divisor scale = some p := by
  have hpos := Nat.zero_lt_of_lt hr
  rw [roundQuotient?]
  split
  case isFalse => exact ⟨_, rfl⟩
  case isTrue hup =>
    split
    case isTrue => exact ⟨_, rfl⟩
    case isFalse htop =>
      rcases hs.lt_or_eq with hone | hzero
      · exact exists_stepBack? hone
      · -- the largest coefficient and a half is out of range
        refine absurd ?_ hin
        have hhalf := (half_le_div_iff hpos).mpr (by omega : divisor ≤ 2 * r)
        have hcast : (q : ℚ) + 1 = 2 ^ 96 := by
          have heq : q + 1 = twoTo 96 := by omega
          rw [twoTo_ninetySix] at heq
          norm_num
          exact_mod_cast heq
        rw [← hzero, zpow_zero, mul_one] at hx
        rw [OutOfRange, ← hx, abs_of_nonneg (by positivity)]
        linarith

/-- Long division ends where the quotient is in range. -/
private theorem exists_extend? (hx : (q : ℚ) + r / divisor = x * 10 ^ scale)
    (hr : r < divisor) (hq : q < twoTo 96) (hscale : scale ≤ 28) (hin : ¬ OutOfRange x) :
    ∃ p, extend? divisor q r scale extended = some p := by
  fun_induction extend? divisor q r scale extended with
  | case1 => exact ⟨_, rfl⟩
  | case2 q scale extended hneg k hfit ih =>
    have hcarried := carried_eq hx hr k
    rw [Nat.zero_mul, Nat.zero_div, Nat.zero_mod, Nat.add_zero] at hcarried
    exact ih hcarried hr hfit (by omega)
  | case3 q scale extended hneg k hfull =>
    exact absurd (outOfRange_of_negative hx (by omega) (not_lt.mp hfull)) hin
  | case4 q r scale extended hrest hlast =>
    obtain ⟨p, hp⟩ := exists_roundQuotient? hx hr hq (by omega) hin
    exact ⟨_, by rw [hp]; rfl⟩
  | case5 q r scale extended hrest hlast k hfull =>
    have hroom : twoTo 96 ≤ q * tenTo (k + 1) := le_mul_headroom_succ (by omega)
    exact absurd (outOfRange_of_negative hx (by omega) hroom) hin
  | case6 q r scale extended hrest hlast k hroom hk =>
    obtain ⟨p, hp⟩ := exists_roundQuotient? hx hr hq (by omega) hin
    exact ⟨_, by rw [hp]; rfl⟩
  | case7 q r scale extended hrest hlast k hroom hk q' r' hfit ih =>
    have hk : k ≤ min 9 (28 - scale).toNat := headroom_le _ _
    exact ih (carried_eq hx hr k) (Nat.mod_lt _ (Nat.zero_lt_of_lt hr)) hfit (by omega)
  | case8 q r scale extended hrest hlast k hroom hk q' r' hfull =>
    by_cases hone : 1 ≤ scale + k
    · obtain ⟨p, hp⟩ : ∃ p, stepBack? q' (scale + k) (decide (r' ≠ 0)) = some p :=
        exists_stepBack? hone
      exact ⟨_, by rw [hp]; rfl⟩
    · have hout := outOfRange_of_negative (k := 0) (carried_eq hx hr k) (by omega) (q := q')
        (by rw [tenTo_eq, Nat.pow_zero, Nat.mul_one]; exact not_lt.mp hfull)
      exact absurd hout hin

end Extend

/-! ### Trailing zeros -/

private theorem dropZeros_div (k n scale : Nat) :
    ((dropZeros k (n, scale)).1 : ℚ) / 10 ^ (dropZeros k (n, scale)).2 = n / 10 ^ scale := by
  rw [dropZeros]
  split
  case isTrue h =>
    obtain ⟨hk, hzeros⟩ := h
    obtain ⟨m, rfl⟩ := Nat.dvd_of_mod_eq_zero hzeros
    obtain ⟨l, rfl⟩ := Nat.exists_eq_add_of_le hk
    dsimp only
    rw [Nat.mul_div_cancel_left _ (tenTo_pos k), Nat.add_sub_cancel_left, pow_add]
    push_cast
    rw [cast_tenTo, mul_div_mul_left _ _ (by positivity : (10 : ℚ) ^ k ≠ 0)]
  case isFalse => rfl

private theorem dropEights_div (n scale : Nat) :
    ((dropEights n scale).1 : ℚ) / 10 ^ (dropEights n scale).2 = n / 10 ^ scale := by
  fun_induction dropEights n scale with
  | case1 n scale h ih =>
    have hdrop := dropZeros_div 8 n scale
    rw [dropZeros, if_pos h.2] at hdrop
    rw [ih, ← hdrop]
  | case2 => rfl

/-- Removing trailing zeros leaves the number as it is. -/
private theorem dropTrailing_div (n scale : Nat) :
    ((dropTrailing n scale).1 : ℚ) / 10 ^ (dropTrailing n scale).2 = n / 10 ^ scale := by
  rw [dropTrailing, ← dropEights_div n scale]
  generalize dropEights n scale = p
  obtain ⟨m, s⟩ := p
  rw [← dropZeros_div 4 m s]
  generalize dropZeros 4 (m, s) = p
  obtain ⟨m, s⟩ := p
  rw [← dropZeros_div 2 m s]
  generalize dropZeros 2 (m, s) = p
  obtain ⟨m, s⟩ := p
  exact dropZeros_div 1 m s

private theorem dropZeros_le (k : Nat) (p : Nat × Nat) :
    (dropZeros k p).1 ≤ p.1 ∧ (dropZeros k p).2 ≤ p.2 := by
  rw [dropZeros]
  split
  case isTrue => exact ⟨Nat.div_le_self _ _, Nat.sub_le _ _⟩
  case isFalse => exact ⟨le_rfl, le_rfl⟩

private theorem dropEights_le (n scale : Nat) :
    (dropEights n scale).1 ≤ n ∧ (dropEights n scale).2 ≤ scale := by
  fun_induction dropEights n scale with
  | case1 n scale h ih =>
    exact ⟨ih.1.trans (Nat.div_le_self _ _), ih.2.trans (Nat.sub_le _ _)⟩
  | case2 => exact ⟨le_rfl, le_rfl⟩

/-- Removing trailing zeros makes neither the coefficient nor the scale larger. -/
private theorem dropTrailing_le (n scale : Nat) :
    (dropTrailing n scale).1 ≤ n ∧ (dropTrailing n scale).2 ≤ scale := by
  have heights := dropEights_le n scale
  have hfour := dropZeros_le 4 (dropEights n scale)
  have htwo := dropZeros_le 2 (dropZeros 4 (dropEights n scale))
  have hone := dropZeros_le 1 (dropZeros 2 (dropZeros 4 (dropEights n scale)))
  exact ⟨hone.1.trans (htwo.1.trans (hfour.1.trans heights.1)),
    hone.2.trans (htwo.2.trans (hfour.2.trans heights.2))⟩

/-! ### Quotients -/

private theorem value_eq_abs (d : Decimal) :
    d.value = if d.isNegative then -|d.value| else |d.value| := by
  rw [isNegative]
  by_cases h : d.coefficient < 0
  · have hneg : d.value < 0 := not_le.mp (mt value_nonneg.mp (not_le.mpr h))
    rw [decide_eq_true h, if_pos rfl, abs_of_neg hneg, neg_neg]
  · have hnonneg : 0 ≤ d.value := value_nonneg.mpr (not_lt.mp h)
    rw [decide_eq_false h, if_neg Bool.false_ne_true, abs_of_nonneg hnonneg]

/-- Long division starts with the whole part of the quotient and its remainder. -/
private theorem start_eq (a : Decimal) (hb : b.coefficient ≠ 0) :
    ((a.magnitude / b.magnitude : Nat) : ℚ) + (a.magnitude % b.magnitude : Nat) / b.magnitude =
      |a.value| / |b.value| * 10 ^ ((a.scale : Int) - b.scale) := by
  have hne : (b.magnitude : ℚ) ≠ 0 := by
    exact_mod_cast Int.natAbs_ne_zero.mpr hb
  have hdiv : (a.magnitude : ℚ) = b.magnitude * (a.magnitude / b.magnitude : Nat) +
      (a.magnitude % b.magnitude : Nat) := by
    exact_mod_cast (Nat.div_add_mod a.magnitude b.magnitude).symm
  rw [← magnitude_div, ← magnitude_div, zpow_sub₀ (by norm_num), zpow_natCast, zpow_natCast]
  generalize a.magnitude / b.magnitude = q at hdiv ⊢
  generalize a.magnitude % b.magnitude = r at hdiv ⊢
  field_simp
  linarith

/-- **Quotients.** A quotient of decimals is exact, or it is the nearest with as many fraction
digits as there is room for. -/
theorem rounded_of_div? (h : a.div? b = some d) :
    ∃ (n : Int) (places : Nat), places ≤ 28 ∧ d.value = n / 10 ^ places ∧
      Rounded (a.value / b.value) n places := by
  rw [div?] at h
  split at h
  case isTrue => exact nomatch h
  case isFalse hb =>
    split at h
    case isTrue ha =>
      cases h
      refine ⟨0, 0, Nat.zero_le _, by simp, .inl ?_⟩
      rw [value_eq_zero.mpr ha]
      simp
    case isFalse ha =>
      obtain ⟨⟨n, scale, extended⟩, hextend, h⟩ := Option.bind_eq_some_iff.mp h
      have hpos : 0 < b.magnitude := Int.natAbs_pos.mpr hb
      have hle : a.magnitude / b.magnitude < twoTo 96 :=
        (Nat.div_le_self _ _).trans_lt a.coefficient_lt
      have hscale := a.scale_le
      obtain ⟨-, hnonneg, hlast, hnear⟩ :=
        ends_of_extend? (start_eq a hb) (Nat.mod_lt _ hpos) hle (by omega) hextend
      have hvalue : d.value =
          (signed (a.isNegative != b.isNegative) n : Int) / 10 ^ scale.toNat := by
        have hdrop := dropTrailing_div n scale.toNat
        cases extended with
        | false => exact value_of_ofParts? h
        | true =>
          rw [value_of_ofParts? h, cast_signed, cast_signed]
          split
          case isTrue => rw [neg_div, neg_div, ← hdrop]; rfl
          case isFalse => exact hdrop
      refine ⟨_, scale.toNat, by omega, hvalue, ?_⟩
      rw [value_eq_abs a, value_eq_abs b]
      cases a.isNegative <;> cases b.isNegative
      · simpa [signed] using hnear
      · simpa [signed, div_neg] using hnear.neg
      · simpa [signed, neg_div] using hnear.neg
      · simpa [signed] using hnear

/-- A quotient in range is found. -/
theorem exists_div? (hb : b.value ≠ 0) (h : ¬ OutOfRange (a.value / b.value)) :
    ∃ d, a.div? b = some d := by
  rw [ne_eq, value_eq_zero] at hb
  rw [div?, if_neg hb]
  split
  case isTrue => exact ⟨zero, rfl⟩
  case isFalse ha =>
    have hpos : 0 < b.magnitude := Int.natAbs_pos.mpr hb
    have hlt : a.magnitude / b.magnitude < twoTo 96 :=
      (Nat.div_le_self _ _).trans_lt a.coefficient_lt
    have hscale := a.scale_le
    have hin : ¬ OutOfRange (|a.value| / |b.value|) := by
      rwa [OutOfRange, ← abs_div, abs_abs]
    obtain ⟨⟨n, scale, extended⟩, hextend⟩ : ∃ p, extend? b.magnitude (a.magnitude / b.magnitude)
        (a.magnitude % b.magnitude) ((a.scale : Int) - b.scale) false = some p :=
      exists_extend? (start_eq a hb) (Nat.mod_lt _ hpos) hlt (by omega) hin
    obtain ⟨hn, -, hlast, -⟩ :=
      ends_of_extend? (start_eq a hb) (Nat.mod_lt _ hpos) hlt (by omega) hextend
    have hdrop := dropTrailing_le n scale.toNat
    rw [hextend]
    cases extended with
    | false => exact exists_ofParts? (by rwa [natAbs_signed]) (by omega)
    | true =>
      refine exists_ofParts? ?_ (hdrop.2.trans (by omega))
      rw [natAbs_signed]
      exact hdrop.1.trans_lt hn

end InvoiceFields.Decimal
