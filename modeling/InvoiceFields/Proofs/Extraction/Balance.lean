import InvoiceFields.Proofs.Decimal.Cents
import InvoiceFields.Proofs.Extraction.Derived
import InvoiceFields.Proofs.Extraction.Due
import Mathlib.RingTheory.Coprime.Lemmas

/-!
# When derived amounts add up

Derivation rounds each amount that it adds for itself. Where two of base, tax and total are known,
or the base alone, the three add up afterwards. Where the total alone is known, base and tax are the
two parts of it, and they miss it by a cent exactly when the base ends in half a cent: both parts
then go up (`derive_balanced_iff`).
-/

namespace InvoiceFields

open Decimal (IsCents IsPart Representable)

variable {rate : VatRate} {a b d gross total : Decimal} {x : ℚ} {n : Int}

/-! ### Whole cents -/

/-- A sum of whole cents is not rounded. -/
theorem exists_add?_cents (ha : a.IsCents) (hb : b.IsCents) (hale : |a.value| ≤ 10 ^ 15)
    (hble : |b.value| ≤ 10 ^ 15) :
    ∃ d, a.add? b = some d ∧ (Amount.toCents d).value = a.value + b.value := by
  obtain ⟨m, hm⟩ := ha
  obtain ⟨n, hn⟩ := hb
  have hcents : (a.value + b.value) * 10 ^ 2 = (m + n : Int) := by
    push_cast
    linarith
  have hle : |a.value + b.value| ≤ 10 ^ 16 := (abs_add_le _ _).trans (by linarith)
  obtain ⟨d, hd, hvalue⟩ :=
    Decimal.exists_add? (Decimal.representable_of_mul_eq hcents hle (by norm_num))
  have hd' : d.IsCents := ⟨m + n, by rw [hvalue]; push_cast; linarith⟩
  exact ⟨d, hd, hd'.value_toCents.trans hvalue⟩

theorem Decimal.IsCents.neg (h : d.IsCents) : d.neg.IsCents := by
  obtain ⟨n, hn⟩ := h
  exact ⟨-n, by rw [Decimal.value_neg]; push_cast; linarith⟩

/-- A difference of whole cents is not rounded. -/
theorem exists_sub?_cents (ha : a.IsCents) (hb : b.IsCents) (hale : |a.value| ≤ 10 ^ 15)
    (hble : |b.value| ≤ 10 ^ 15) :
    ∃ d, a.sub? b = some d ∧ (Amount.toCents d).value = a.value - b.value := by
  have hneg : |b.neg.value| ≤ 10 ^ 15 := by rwa [Decimal.value_neg, abs_neg]
  obtain ⟨d, hd, hvalue⟩ := exists_add?_cents ha hb.neg hale hneg
  exact ⟨d, hd, by rw [hvalue, Decimal.value_neg, sub_eq_add_neg]⟩

/-- A product of whole cents by a number with four decimals is not rounded. -/
theorem exists_mul?_cents (hb : b.IsCents) (hble : |b.value| ≤ 10 ^ 15) {k : Int}
    (hk : d.value * 10 ^ 4 = k) (hd : |d.value| ≤ 2) :
    ∃ product, b.mul? d = some product ∧ product.value = b.value * d.value := by
  obtain ⟨n, hn⟩ := hb
  have hmillionths : b.value * d.value * 10 ^ 6 = (n * k : Int) := by
    push_cast
    rw [← hn, ← hk]
    ring
  have hle : |b.value * d.value| ≤ 10 ^ 16 := by
    calc |b.value * d.value| = |b.value| * |d.value| := abs_mul _ _
      _ ≤ 10 ^ 15 * 2 := mul_le_mul hble hd (abs_nonneg _) (by norm_num)
      _ ≤ 10 ^ 16 := by norm_num
  exact Decimal.exists_mul? (Decimal.representable_of_mul_eq hmillionths hle (by norm_num))

/-- The total and the tax of whole cents are exact. -/
theorem exists_mul?_total_tax (hle : rate.fraction.value ≤ 1) {k : Int}
    (hk : rate.fraction.value * 10 ^ 4 = k) (hgross : gross.value = 1 + rate.fraction.value)
    (hb : b.IsCents) (hble : |b.value| ≤ 10 ^ 15) :
    ∃ total tax, b.mul? gross = some total ∧ b.mul? rate.fraction = some tax ∧
      total.value = b.value * (1 + rate.fraction.value) ∧
      tax.value = b.value * rate.fraction.value := by
  have hpos := rate.value_pos
  have hkgross : gross.value * 10 ^ 4 = (10 ^ 4 + k : Int) := by
    push_cast
    rw [hgross, ← hk]
    ring
  obtain ⟨total, htotal, hvtotal⟩ := exists_mul?_cents hb hble hkgross
    (by rw [abs_of_pos] <;> linarith)
  obtain ⟨tax, htax, hvtax⟩ := exists_mul?_cents hb hble hk (by rw [abs_of_pos] <;> linarith)
  exact ⟨total, tax, htotal, htax, by rw [hvtotal, hgross], hvtax⟩

/-! ### From the base -/

/-- The tax and the total of a base, each rounded, differ by the base. -/
theorem exists_mul?_balanced (hle : rate.fraction.value ≤ 1) {k : Int}
    (hk : rate.fraction.value * 10 ^ 4 = k) (hgross : gross.value = 1 + rate.fraction.value)
    (hb : b.IsCents) (hble : |b.value| ≤ 10 ^ 15) :
    ∃ total tax, b.mul? gross = some total ∧ b.mul? rate.fraction = some tax ∧
      b.value + (Amount.toCents tax).value = (Amount.toCents total).value := by
  have hpos := rate.value_pos
  obtain ⟨total, tax, htotal, htax, hvtotal, hvtax⟩ :=
    exists_mul?_total_tax hle hk hgross hb hble
  refine ⟨total, tax, htotal, htax, ?_⟩
  obtain ⟨n, hn⟩ := hb
  have hsign : 0 ≤ n ∧ 0 ≤ (n : ℚ) * rate.fraction.value ∨
      n ≤ 0 ∧ (n : ℚ) * rate.fraction.value ≤ 0 := by
    rcases le_total 0 n with h | h
    · have hcast : (0 : ℚ) ≤ n := by exact_mod_cast h
      exact .inl ⟨h, by positivity⟩
    · have hcast : (n : ℚ) ≤ 0 := by exact_mod_cast h
      exact .inr ⟨h, mul_nonpos_of_nonpos_of_nonneg hcast hpos.le⟩
  have hparts : 100 * total.value = n + n * rate.fraction.value := by
    rw [hvtotal, ← hn]
    ring
  have htaxCents : 100 * tax.value = n * rate.fraction.value := by
    rw [hvtax, ← hn]
    ring
  rw [Decimal.value_toCents, Decimal.value_toCents, hparts, htaxCents, halfAway_intCast_add hsign]
  push_cast
  linarith

/-! ### From the total

A base computed from a total `t` is the quotient `x = t / (1 + r)` or as near to it as fits. -/

/-- Two fractions with denominators `a` and `b` are not closer than `1 / (a * b)`. -/
theorem eq_of_intCast_mul_eq {y : ℚ} {a b m n : Int} (ha : a ≠ 0) (hb : b ≠ 0) (hx : a * x = m)
    (hy : b * y = n) (h : |(a * b : ℚ)| * |x - y| < 1) : x = y := by
  have hwhole : (a * b : ℚ) * (x - y) = (m * b - n * a : Int) := by
    push_cast
    rw [← hx, ← hy]
    ring
  rw [← abs_mul, hwhole] at h
  have hlt : |m * b - n * a| < 1 := by exact_mod_cast h
  rw [Int.abs_lt_one_iff.mp hlt, Int.cast_zero] at hwhole
  have hab : (a * b : ℚ) ≠ 0 := by exact_mod_cast mul_ne_zero ha hb
  exact sub_eq_zero.mp ((mul_eq_zero.mp hwhole).resolve_left hab)

/-- Half a cent that is close to the base contained in a total is that base: both are fractions with
small denominators. -/
theorem eq_of_isHalf_of_close (hle : rate.fraction.value ≤ 1) {k : Int} {y : ℚ}
    (hk : rate.fraction.value * 10 ^ 4 = k) (hx : 100 * (x * (1 + rate.fraction.value)) = n)
    (hhalf : IsHalf (100 * y)) (hclose : |y - x| ≤ 1 / 2 / 10 ^ 13) : y = x := by
  have hpos := rate.value_pos
  obtain ⟨m, hm⟩ := hhalf
  have hparts : ((200 : Int) : ℚ) * y = (2 * m + 1 : Int) := by
    push_cast
    linarith
  have hquotient : ((10 ^ 4 + k : Int) : ℚ) * x = (n * 100 : Int) := by
    push_cast
    rw [← hx, ← hk]
    ring
  have hdenominator : |((10 ^ 4 + k : Int) : ℚ)| ≤ 2 * 10 ^ 4 := by
    push_cast
    rw [← hk, abs_of_pos (by positivity)]
    linarith
  have hne : 10 ^ 4 + k ≠ 0 := by
    have hcast : (0 : ℚ) < 10 ^ 4 + k := hk ▸ by positivity
    exact_mod_cast hcast.ne'
  refine eq_of_intCast_mul_eq (by norm_num) hne hparts hquotient ?_
  calc |((200 : Int) : ℚ) * (10 ^ 4 + k : Int)| * |y - x|
      = 200 * |((10 ^ 4 + k : Int) : ℚ)| * |y - x| := by rw [abs_mul]; norm_num
    _ ≤ 200 * (2 * 10 ^ 4) * (1 / 2 / 10 ^ 13) := by gcongr
    _ < 1 := by norm_num

/-- The base computed from a total ends in half a cent exactly when the base contained in it does:
a quotient that is not exact is too close to the base to be half a cent. -/
theorem isHalf_div? (hle : rate.fraction.value ≤ 1) {k : Int}
    (hk : rate.fraction.value * 10 ^ 4 = k) (hgross : gross.value = 1 + rate.fraction.value)
    (ht : total.IsCents) (htle : |total.value| ≤ 10 ^ 15) (hd : total.div? gross = some d) :
    IsHalf (100 * d.value) ↔ IsHalf (100 * (total.value / (1 + rate.fraction.value))) := by
  have hpos := rate.value_pos
  obtain ⟨n, hn⟩ := ht
  rw [← hgross]
  have hmul : total.value / gross.value * gross.value = total.value :=
    div_mul_cancel₀ _ (by linarith)
  have hx : |total.value / gross.value| ≤ 10 ^ 15 := by
    rw [abs_div, abs_of_pos (by linarith : 0 < gross.value)]
    exact (div_le_self (abs_nonneg _) (by linarith)).trans htle
  have hclose := Decimal.eq_or_close_of_div? hd hx
  have hexact := Decimal.value_of_div? hd
  generalize total.value / gross.value = x at hclose hexact hmul hx ⊢
  constructor
  · intro hhalf
    rcases hclose with heq | hclose
    · rwa [← heq]
    · rw [← hmul, hgross] at hn
      rwa [← eq_of_isHalf_of_close hle hk hn hhalf hclose]
  · rintro ⟨m, hm⟩
    have hmills : x * 10 ^ 3 = (10 * m + 5 : Int) := by
      push_cast
      linarith
    exact ⟨m, by rw [hexact (Decimal.representable_of_mul_eq hmills hx (by norm_num)), hm]⟩

/-- The base and the tax computed from a total, each rounded, make it up, unless the base ends in
half a cent: then they make up a cent more. -/
theorem exists_sub?_balanced (hle : rate.fraction.value ≤ 1) {k : Int}
    (hk : rate.fraction.value * 10 ^ 4 = k) (hgross : gross.value = 1 + rate.fraction.value)
    (ht : total.IsCents) (htle : |total.value| ≤ 10 ^ 15) (hd : total.div? gross = some d) :
    ∃ tax, total.sub? d = some tax ∧
      (¬ IsHalf (100 * (total.value / (1 + rate.fraction.value))) →
        (Amount.toCents d).value + (Amount.toCents tax).value = total.value) ∧
      (IsHalf (100 * (total.value / (1 + rate.fraction.value))) →
        |(Amount.toCents d).value + (Amount.toCents tax).value| = |total.value| + 1 / 100) := by
  have hpos := rate.value_pos
  have hpart := Decimal.isPart_of_div? (by linarith) hd
  obtain ⟨tax, htax?, htax⟩ := Decimal.exists_sub?_quotient (by linarith) (by linarith) hd
  refine ⟨tax, htax?, ?_⟩
  rw [← isHalf_div? hle hk hgross ht htle hd]
  obtain ⟨n, hn⟩ := ht
  have hsum : (Amount.toCents d).value + (Amount.toCents tax).value =
      (halfAway (100 * d.value) + halfAway (n - 100 * d.value) : Int) / 100 := by
    rw [Decimal.value_toCents, Decimal.value_toCents, htax, mul_sub, hn]
    push_cast
    ring
  have htotal : total.value = n / 100 := by
    rw [← hn]
    ring
  rw [hsum]
  constructor
  · intro hno
    rw [halfAway_add_halfAway_sub hno, htotal]
  · intro hhalf
    have hsides : IsPart (100 * d.value) n := by
      rw [← hn]
      rcases hpart with ⟨hsign, hhigh⟩ | ⟨hlow, hsign⟩
      · exact .inl ⟨by linarith, by linarith⟩
      · exact .inr ⟨by linarith, by linarith⟩
    have hcent := abs_halfAway_add_halfAway_sub hhalf hsides
    rw [abs_div, ← Int.cast_abs, hcent, htotal, abs_div, abs_of_pos (by norm_num : (0 : ℚ) < 100)]
    push_cast
    ring

/-- Half cents arise only from rates that are, with their whole, multiples of 32 in the fourth
decimal: 4 % is one, 10 % and 21 % are none. -/
theorem not_isHalf_of_not_dvd {t : ℚ} {k : Int} (hk : rate.fraction.value * 10 ^ 4 = k)
    (hdvd : ¬ (32 : Int) ∣ 10 ^ 4 + k) (hn : 100 * t = n) :
    ¬ IsHalf (100 * (t / (1 + rate.fraction.value))) := by
  rintro ⟨m, hm⟩
  have hpos := rate.value_pos
  have hmul : (10 ^ 4 + k) * (2 * m + 1) = 32 * (625 * n) := by
    have hcast : (10 ^ 4 + k : ℚ) * (2 * m + 1) = 32 * (625 * n) := by
      have hone : 1 + rate.fraction.value ≠ 0 := by linarith
      rw [← mul_div_assoc, hn, div_eq_iff hone] at hm
      rw [hm, ← hk]
      ring
    exact_mod_cast hcast
  have hodd : IsCoprime (2 ^ 5 : Int) (2 * m + 1) := IsCoprime.pow_left ⟨-m, 1, by ring⟩
  exact hdvd (hodd.dvd_of_dvd_mul_right ⟨625 * n, hmul⟩)

/-! ### Completion and derivation -/

namespace Amounts

variable {known completed : Amounts} {base tax : Decimal}

/-- Known members with the open ones taken from `completed`, rounded to cents. -/
def filled (known completed : Amounts) : Amounts where
  base := known.base.or (completed.base.map Amount.toCents)
  tax := known.tax.or (completed.tax.map Amount.toCents)
  total := known.total.or (completed.total.map Amount.toCents)

/-- All known members are whole cents up to a thousand billions. -/
def AreCents (known : Amounts) : Prop :=
  ∀ f d, known.member? f = some d → d.IsCents ∧ |d.value| ≤ 10 ^ 15

section Filled

variable (hle : rate.fraction.value ≤ 1) (hdigits : ∃ k : Int, rate.fraction.value * 10 ^ 4 = k)
  (hknown : known.AreCents) (hcompleted : known.complete rate = .ok completed)

include hle hdigits hknown hcompleted

/-- Two known members or a known base are filled up to amounts that add up. -/
theorem filled_balanced (hopen : known.IsOpen)
    (hparts : known.base ≠ none ∨ known.tax ≠ none ∧ known.total ≠ none) :
    ∃ base tax total, known.filled completed = ⟨some base, some tax, some total⟩ ∧
      base.value + tax.value = total.value := by
  obtain ⟨k, hk⟩ := hdigits
  obtain ⟨gross, hgross?, hgross⟩ := VatRate.exists_gross hle
  cases (complete_eq_ok fun _ => hgross?).mp hcompleted with
  | full | nothing | ofTotal => simp [IsOpen] at hopen hparts
  | tax b s =>
    obtain ⟨hb, hble⟩ := hknown .base b rfl
    obtain ⟨hs, hsle⟩ := hknown .total s rfl
    obtain ⟨t, ht, hvalue⟩ := exists_sub?_cents hs hb hsle hble
    exact ⟨b, Amount.toCents t, s, by simp [filled, ht], by linarith⟩
  | total b t =>
    obtain ⟨hb, hble⟩ := hknown .base b rfl
    obtain ⟨ht, htle⟩ := hknown .tax t rfl
    obtain ⟨s, hs, hvalue⟩ := exists_add?_cents hb ht hble htle
    exact ⟨b, t, Amount.toCents s, by simp [filled, hs], by linarith⟩
  | base t s =>
    obtain ⟨ht, htle⟩ := hknown .tax t rfl
    obtain ⟨hs, hsle⟩ := hknown .total s rfl
    obtain ⟨b, hb, hvalue⟩ := exists_sub?_cents hs ht hsle htle
    exact ⟨Amount.toCents b, t, s, by simp [filled, hb], by linarith⟩
  | ofBase b =>
    obtain ⟨hb, hble⟩ := hknown .base b rfl
    obtain ⟨s, t, hs, ht, hvalue⟩ := exists_mul?_balanced hle hk hgross hb hble
    exact ⟨b, Amount.toCents t, Amount.toCents s, by simp [filled, hs, ht], hvalue⟩

/-- A known total alone is filled up to amounts that add up, unless its base ends in half a cent. -/
theorem filled_total_balanced {total : Decimal} (htotal : known = ⟨none, none, some total⟩)
    (hbase : (known.filled completed).base = some base)
    (htax : (known.filled completed).tax = some tax) :
    (¬ IsHalf (100 * (total.value / (1 + rate.fraction.value))) →
        base.value + tax.value = total.value) ∧
      (IsHalf (100 * (total.value / (1 + rate.fraction.value))) →
        |base.value + tax.value| = |total.value| + 1 / 100) := by
  subst htotal
  obtain ⟨k, hk⟩ := hdigits
  obtain ⟨gross, hgross?, hgross⟩ := VatRate.exists_gross hle
  obtain ⟨hs, hsle⟩ := hknown .total total rfl
  obtain ⟨⟩ := (complete_eq_ok fun _ => hgross?).mp hcompleted
  obtain ⟨b, hb, rfl⟩ := Option.map_eq_some_iff.mp hbase
  obtain ⟨t, ht, rfl⟩ := Option.map_eq_some_iff.mp htax
  dsimp only at hb ht
  rw [hb, Option.bind_some] at ht
  obtain ⟨t', ht', hvalue⟩ := exists_sub?_balanced hle hk hgross hs hsle hb
  obtain rfl := Option.some.inj (ht'.symm.trans ht)
  exact hvalue

/-- Filled amounts add up, unless the total alone is known and its base ends in half a cent. -/
theorem filled_balanced_iff {total : Decimal} (hopen : known.IsOpen)
    (hbase : (known.filled completed).base = some base)
    (htax : (known.filled completed).tax = some tax)
    (htotal : (known.filled completed).total = some total) :
    (base.value + tax.value = total.value ↔ ¬ (known.base = none ∧ known.tax = none ∧
        IsHalf (100 * (total.value / (1 + rate.fraction.value))))) ∧
      (base.value + tax.value ≠ total.value →
        |base.value + tax.value| = |total.value| + 1 / 100) := by
  by_cases hparts : known.base ≠ none ∨ known.tax ≠ none ∧ known.total ≠ none
  · obtain ⟨b, t, s, hfilled, hsum⟩ :=
      filled_balanced hle hdigits hknown hcompleted hopen hparts
    rw [hfilled, Option.some_inj] at hbase htax htotal
    subst hbase htax htotal
    refine ⟨iff_of_true hsum ?_, fun hne => absurd hsum hne⟩
    rintro ⟨hb, ht, -⟩
    rcases hparts with hparts | ⟨hparts, -⟩
    · exact hparts hb
    · exact hparts ht
  · obtain ⟨b, t, s⟩ := known
    rw [not_or, not_ne_iff, not_and_or, not_ne_iff, not_ne_iff] at hparts
    obtain ⟨rfl, hparts⟩ := hparts
    cases s with
    | none =>
      -- a tax alone says nothing about the base
      obtain rfl : ⟨none, t, none⟩ = completed := by cases t <;> exact Except.ok.inj hcompleted
      exact nomatch hbase
    | some s =>
      obtain rfl : t = none := hparts.resolve_right (Option.some_ne_none s)
      obtain rfl : s = total := Option.some.inj htotal
      obtain ⟨hexact, hhalf⟩ := filled_total_balanced hle hdigits hknown hcompleted rfl hbase htax
      refine ⟨⟨?_, ?_⟩, ?_⟩
      · rintro hsum ⟨-, -, h⟩
        have hcent := hhalf h
        rw [hsum] at hcent
        linarith
      · exact fun h => hexact fun hx => h ⟨rfl, rfl, hx⟩
      · exact fun hne => hhalf (not_not.mp (mt hexact hne))

end Filled

end Amounts

namespace Extraction

variable {e e' : Extraction} {completed : Amounts} {added : List Field} {f : Field}

/-- The amounts after derivation are the known ones, filled up. -/
private theorem member?_filled (hget : ∀ f, e'.get? f = (e.get? f).or (derived? completed f))
    (hf : f = .base ∨ f = .tax ∨ f = .total) (hd : e'.amount? f = some d) :
    (e.amounts.filled completed).member? f = some d := by
  have hfilled : (e.amounts.filled completed).member? f =
      (e.amount? f).or ((completed.member? f).map Amount.toCents) := by
    rcases hf with rfl | rfl | rfl <;> rfl
  rw [hfilled, amount?]
  rw [amount?, hget] at hd
  cases hv : e.get? f with
  | none =>
    rw [hv, Option.none_or, derived?] at hd
    cases hm : completed.member? f with
    | none => simp [hm] at hd
    | some m => simpa [hm, FieldValue.amount?] using hd
  | some v =>
    rw [hv, Option.some_or, Option.bind_some] at hd
    rw [Option.bind_some, hd, Option.some_or]

/-- Where a field is added, one of the amounts was open. -/
private theorem exists_open (hadded : added = [Field.total, .base, .tax].filter fun f =>
      !e.contains f && (completed.member? f).isSome) (hne : added ≠ []) : e.amounts.IsOpen := by
  obtain ⟨f, hf⟩ := List.exists_mem_of_ne_nil added hne
  rw [hadded, List.mem_filter, Bool.and_eq_true, Bool.not_eq_true', contains_eq_false] at hf
  obtain ⟨hmem, hopen, -⟩ := hf
  have hnone : e.amount? f = none := by rw [amount?, hopen, Option.bind_none]
  simp only [List.mem_cons, List.not_mem_nil, or_false] at hmem
  rcases hmem with rfl | rfl | rfl
  · exact .inr (.inr hnone)
  · exact .inl hnone
  · exact .inr (.inl hnone)

/-- **Balance.** Derivation from whole cents answers, and where it adds a field and base, tax and
total are amounts afterwards, they add up unless the total alone was known and the base in it ends
in half a cent. Base and tax are then a cent more than the total. -/
theorem derive_balanced_iff (hle : rate.fraction.value ≤ 1)
    (hdigits : ∃ k : Int, rate.fraction.value * 10 ^ 4 = k)
    (hcents : ∀ f d, f ∈ [Field.base, .tax, .total] → e.amount? f = some d →
      d.IsCents ∧ |d.value| ≤ 10 ^ 15) :
    ∃ e' added, e.derive rate = .ok (e', added) ∧
      (added ≠ [] → ∀ base tax total : Decimal, e'.amount? .base = some base →
        e'.amount? .tax = some tax → e'.amount? .total = some total →
        (base.value + tax.value = total.value ↔ ¬ (e.amount? .base = none ∧ e.amount? .tax = none ∧
          IsHalf (100 * (total.value / (1 + rate.fraction.value))))) ∧
        (base.value + tax.value ≠ total.value →
          |base.value + tax.value| = |total.value| + 1 / 100)) := by
  obtain ⟨gross, hgross, -⟩ := VatRate.exists_gross hle
  obtain ⟨completed, hcompleted⟩ := Amounts.exists_complete_eq_ok ⟨gross, hgross⟩ e.amounts
  have hknown : e.amounts.AreCents := by
    intro f d hd
    cases f with
    | base => exact hcents .base d (by decide) hd
    | tax => exact hcents .tax d (by decide) hd
    | total => exact hcents .total d (by decide) hd
    | _ => exact nomatch hd
  cases hderive : e.derive rate with
  | error fault => exact absurd hderive (derive_ne_error ⟨gross, hgross⟩)
  | ok p =>
    obtain ⟨e', added⟩ := p
    obtain ⟨completed', hcompleted', hget, hadded⟩ := derive_eq_ok.mp hderive
    obtain rfl := Except.ok.inj (hcompleted'.symm.trans hcompleted)
    refine ⟨e', added, rfl, fun hne base tax total hbase htax htotal => ?_⟩
    have hbase' : (e.amounts.filled completed').base = some base :=
      member?_filled hget (.inl rfl) hbase
    have htax' : (e.amounts.filled completed').tax = some tax :=
      member?_filled hget (.inr (.inl rfl)) htax
    have htotal' : (e.amounts.filled completed').total = some total :=
      member?_filled hget (.inr (.inr rfl)) htotal
    exact Amounts.filled_balanced_iff hle hdigits hknown hcompleted' (exists_open hadded hne)
      hbase' htax' htotal'

/-- An extraction with nothing but a total. -/
def ofTotal (total : Decimal) : Extraction := empty.set .total (.amount total)

private theorem ofTotal_cents {total : Decimal} (hscale : total.scale ≤ 2)
    (hle : |total.value| ≤ 10 ^ 15) :
    ∀ f d, f ∈ [Field.base, .tax, .total] → (ofTotal total).amount? f = some d →
      d.IsCents ∧ |d.value| ≤ 10 ^ 15 := by
  intro f d _ hd
  cases f with
  | total =>
    obtain rfl : total = d := Option.some.inj hd
    exact ⟨Decimal.isCents_of_scale_le hscale, hle⟩
  | _ => exact nomatch hd

/-- At 21 %, a total of 100.00 is made up by a base of 82.64 and a tax of 17.36. -/
theorem derive_balanced_hundred :
    ∃ e' base tax total, (ofTotal ⟨10000, 2, by decide, by decide⟩).derive .general =
        .ok (e', [.base, .tax]) ∧
      e'.amount? .base = some base ∧ e'.amount? .tax = some tax ∧ e'.amount? .total = some total ∧
      base.text = "82.64" ∧ tax.text = "17.36" ∧ base.value + tax.value = total.value := by
  have hle : VatRate.general.fraction.value ≤ 1 := by norm_num [VatRate.general, Decimal.value]
  have hk : VatRate.general.fraction.value * 10 ^ 4 = (2100 : Int) := by
    norm_num [VatRate.general, Decimal.value]
  have hcents : ∀ f d, f ∈ [Field.base, .tax, .total] →
      (ofTotal ⟨10000, 2, by decide, by decide⟩).amount? f = some d →
        d.IsCents ∧ |d.value| ≤ 10 ^ 15 :=
    ofTotal_cents (by decide) (by norm_num [Decimal.value])
  obtain ⟨e', added, hderive, hbalanced⟩ := derive_balanced_iff hle ⟨2100, hk⟩ hcents
  have hcheck : ((ofTotal ⟨10000, 2, by decide, by decide⟩).derive .general).toOption.any
      (fun p => decide (p.2 = [.base, .tax]) &&
        p.1.amount? .total == some ⟨10000, 2, by decide, by decide⟩ &&
        (p.1.amount? .base).any (·.text = "82.64") && (p.1.amount? .tax).any (·.text = "17.36")) =
        true := by decide +kernel
  rw [hderive] at hcheck
  simp only [Except.toOption, Option.any_some, Bool.and_eq_true, decide_eq_true_eq, beq_iff_eq,
    Option.any_eq_true] at hcheck
  obtain ⟨⟨⟨rfl, htotal⟩, base, hbase, hbaseText⟩, tax, htax, htaxText⟩ := hcheck
  refine ⟨e', base, tax, _, hderive, hbase, htax, htotal, hbaseText, htaxText, ?_⟩
  refine (hbalanced (by decide) base tax _ hbase htax htotal).1.mpr ?_
  rintro ⟨-, -, hhalf⟩
  exact not_isHalf_of_not_dvd (n := 10000) hk (by decide) (by norm_num [Decimal.value]) hhalf

/-- At 4 %, the base 0.125 and the tax 0.005 of a total of 0.13 both go up. -/
theorem not_forall_derive_balanced :
    ¬ ∀ (rate : VatRate) (e e' : Extraction) (added : List Field) (base tax total : Decimal),
      rate.fraction.value ≤ 1 → rate.fraction.scale ≤ 4 →
      (∀ f d, f ∈ [Field.base, .tax, .total] → e.amount? f = some d →
        d.scale ≤ 2 ∧ |d.value| ≤ 10 ^ 15) →
      e.derive rate = .ok (e', added) → added ≠ [] → e'.amount? .base = some base →
      e'.amount? .tax = some tax → e'.amount? .total = some total →
      base.value + tax.value = total.value := by
  intro h
  have hcheck : ((ofTotal ⟨13, 2, by decide, by decide⟩).derive
      ⟨⟨4, 2, by decide, by decide⟩, by decide⟩).toOption.any
      (fun p => decide (p.2 ≠ []) &&
        p.1.amount? .total == some ⟨13, 2, by decide, by decide⟩ &&
        p.1.amount? .base == some ⟨13, 2, by decide, by decide⟩ &&
        p.1.amount? .tax == some ⟨1, 2, by decide, by decide⟩) = true := by decide +kernel
  obtain ⟨⟨e', added⟩, hderive, hcheck⟩ := exists_eq_ok_of_any hcheck
  simp only [Bool.and_eq_true, decide_eq_true_eq, beq_iff_eq] at hcheck
  obtain ⟨⟨⟨hadded, htotal⟩, hbase⟩, htax⟩ := hcheck
  have hsum := h _ _ e' added _ _ _ (by norm_num [Decimal.value]) (by decide) ?_ hderive hadded
    hbase htax htotal
  · norm_num [Decimal.value] at hsum
  · intro f d _ hd
    cases f with
    | total =>
      obtain rfl := Option.some.inj hd
      exact ⟨by decide, by norm_num [Decimal.value]⟩
    | _ => cases hd

end Extraction

end InvoiceFields
