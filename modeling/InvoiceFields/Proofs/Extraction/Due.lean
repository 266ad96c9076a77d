import InvoiceFields.Proofs.VatRate.Usable

/-!
# What completion finds

Each member is due to be a number that the known ones determine (`Amounts.due?`), and what is due
adds up (`Completes.due?_balanced`). A member is left open only where its number is out of range,
and it is exact where that is a decimal (`Completes.meets`). A total alone falls into its base,
which may be rounded, and the rest of it as the tax (`Completes.exists_parts`).
-/

namespace InvoiceFields

open Decimal (IsPart OutOfRange Representable)

/-! ### Found numbers -/

/-- What is found for a number: nothing where there is no number or where it is out of range, and
the number itself where that is a decimal. -/
def Decimal.Meets (found : Option Decimal) : Option ℚ → Prop
  | none => found = none
  | some x => (found = none ↔ OutOfRange x) ∧ (Representable x → ∃ d, found = some d ∧ d.value = x)

namespace Decimal

variable {a b : Decimal} {found : Option Decimal} {due : Option ℚ}

theorem meets_value : Meets (some a) (some a.value) :=
  ⟨iff_of_false nofun a.not_outOfRange_value, fun _ => ⟨a, rfl, rfl⟩⟩

theorem meets_add? : Meets (a.add? b) (some (a.value + b.value)) := ⟨add?_eq_none, exists_add?⟩

theorem meets_sub? : Meets (a.sub? b) (some (a.value - b.value)) := ⟨sub?_eq_none, exists_sub?⟩

theorem meets_mul? : Meets (a.mul? b) (some (a.value * b.value)) := ⟨mul?_eq_none, exists_mul?⟩

/-- Nothing is found only where there is nothing in range. -/
theorem Meets.eq_none_iff (h : Meets found due) :
    found = none ↔ ∀ x, due = some x → OutOfRange x := by
  cases due with
  | none => exact iff_of_true h nofun
  | some x => simpa using h.1

/-- A number that is a decimal is found as it is. -/
theorem Meets.map_value (h : Meets found due) (hfit : ∀ x, due = some x → Representable x) :
    found.map value = due := by
  cases due with
  | none => exact congrArg (Option.map value) h
  | some x =>
    obtain ⟨d, rfl, rfl⟩ := h.2 (hfit x rfl)
    rfl

end Decimal

open Decimal (Meets)

namespace Amounts

variable {known completed : Amounts} {r gross d : Decimal} {x y : ℚ} {f : Field}

/-! ### What is due -/

/-- The number that a member has to be: its own where it is known, and otherwise what the known ones
determine. Where the base or the total is known alone, that depends on the rate and on the gross
multiplier. -/
def due? (known : Amounts) (rate gross : ℚ) : Field → Option ℚ
  | .base =>
    match known.base, known.tax, known.total with
    | some b, _, _ => some b.value
    | none, some t, some s => some (s.value - t.value)
    | none, none, some s => some (s.value / gross)
    | none, _, none => none
  | .tax =>
    match known.base, known.tax, known.total with
    | _, some t, _ => some t.value
    | some b, none, some s => some (s.value - b.value)
    | some b, none, none => some (b.value * rate)
    | none, none, some s => some (s.value - s.value / gross)
    | none, none, none => none
  | .total =>
    match known.base, known.tax, known.total with
    | _, _, some s => some s.value
    | some b, some t, none => some (b.value + t.value)
    | some b, none, none => some (b.value * gross)
    | none, _, none => none
  | _ => none

/-- One of base, tax and total is open. -/
def IsOpen (known : Amounts) : Prop := known.base = none ∨ known.tax = none ∨ known.total = none

/-- A base or a total determines all three amounts. -/
theorem exists_due? (h : known.base ≠ none ∨ known.total ≠ none)
    (hf : f = .base ∨ f = .tax ∨ f = .total) : ∃ z, known.due? x y f = some z := by
  obtain ⟨base, tax, total⟩ := known
  rcases hf with rfl | rfl | rfl <;> cases base <;> cases tax <;> cases total <;>
    first | exact ⟨_, rfl⟩ | simp at h

/-- A known member is due as it is. -/
theorem due?_of_member? (h : known.member? f = some d) : known.due? x y f = some d.value := by
  obtain ⟨base, tax, total⟩ := known
  cases f with
  | base =>
    obtain rfl : base = some d := h
    rfl
  | tax =>
    obtain rfl : tax = some d := h
    cases base <;> rfl
  | total =>
    obtain rfl : total = some d := h
    cases base <;> cases tax <;> rfl
  | _ => exact nomatch h

/-- What is due is not larger than twice the largest amount that is known. -/
theorem abs_le_of_due? {z bound : ℚ} (hpos : 0 < x) (hle : x ≤ 1) (hy : y = 1 + x)
    (hbound : ∀ g d, known.member? g = some d → |d.value| ≤ bound)
    (hz : known.due? x y f = some z) : |z| ≤ 2 * bound := by
  have hdouble : ∀ {u : ℚ}, |u| ≤ bound → bound ≤ 2 * bound := by
    intro u hu
    linarith [abs_nonneg u]
  have hmul : ∀ {u v : ℚ}, |u| ≤ bound → 0 ≤ v → v ≤ 2 → |u * v| ≤ 2 * bound := by
    intro u v hu hv htwo
    rw [abs_mul, abs_of_nonneg hv, mul_comm]
    exact mul_le_mul htwo hu (abs_nonneg u) (by norm_num)
  cases hm : known.member? f with
  | some d =>
    obtain rfl := Option.some.inj ((due?_of_member? hm).symm.trans hz)
    exact (hbound f d hm).trans (hdouble (hbound f d hm))
  | none =>
    -- an open member is a sum, a difference or a part of two others
    obtain ⟨base, tax, total⟩ := known
    cases f with
    | base =>
      obtain rfl : base = none := hm
      cases tax <;> cases total <;> cases hz
      case none.some.refl s =>
        have hs := hbound .total s rfl
        have hpart := Decimal.isPart_div (by linarith : 1 ≤ y) s.value
        exact (hpart.abs_le.trans hs).trans (hdouble hs)
      case some.some.refl t s =>
        have hs := hbound .total s rfl
        have ht := hbound .tax t rfl
        exact (abs_sub _ _).trans (by linarith)
    | tax =>
      obtain rfl : tax = none := hm
      cases base <;> cases total <;> cases hz
      case none.some.refl s =>
        have hs := hbound .total s rfl
        have hpart := Decimal.isPart_div (by linarith : 1 ≤ y) s.value
        exact (hpart.sub.abs_le.trans hs).trans (hdouble hs)
      case some.none.refl b => exact hmul (hbound .base b rfl) hpos.le (by linarith)
      case some.some.refl b s =>
        have hs := hbound .total s rfl
        have hb := hbound .base b rfl
        exact (abs_sub _ _).trans (by linarith)
    | total =>
      obtain rfl : total = none := hm
      cases base <;> cases tax <;> cases hz
      case some.none.refl b => exact hmul (hbound .base b rfl) (by linarith) (by linarith)
      case some.some.refl b t =>
        have hb := hbound .base b rfl
        have ht := hbound .tax t rfl
        exact (abs_add_le _ _).trans (by linarith)
    | _ => exact nomatch hz

/-- What is due adds up. -/
theorem Completes.due?_balanced {b t s : ℚ} (h : Completes r gross known completed)
    (hgross : gross.value = 1 + r.value) (hopen : known.IsOpen)
    (hbase : known.due? r.value gross.value .base = some b)
    (htax : known.due? r.value gross.value .tax = some t)
    (htotal : known.due? r.value gross.value .total = some s) : b + t = s := by
  rw [hgross] at hbase htax htotal
  cases h with
  | full => simp [IsOpen] at hopen
  | nothing => exact nomatch htotal
  | tax | total | base | ofTotal | ofBase =>
    cases hbase
    cases htax
    cases htotal
    ring

/-- Where a base or a tax is known, or no total, each member is found as it is due. -/
theorem Completes.meets (h : Completes r gross known completed)
    (hparts : known.base ≠ none ∨ known.tax ≠ none ∨ known.total = none) (f : Field) :
    Meets (completed.member? f) (known.due? r.value gross.value f) := by
  cases h with
  | full b t s =>
    cases f with
    | base | tax | total => exact Decimal.meets_value
    | _ => rfl
  | tax b s =>
    cases f with
    | base | total => exact Decimal.meets_value
    | tax => exact Decimal.meets_sub?
    | _ => rfl
  | total b t =>
    cases f with
    | base | tax => exact Decimal.meets_value
    | total => exact Decimal.meets_add?
    | _ => rfl
  | base t s =>
    cases f with
    | tax | total => exact Decimal.meets_value
    | base => exact Decimal.meets_sub?
    | _ => rfl
  -- the tax behind a total alone depends on how the base was rounded
  | ofTotal s => simp at hparts
  | ofBase b =>
    cases f with
    | base => exact Decimal.meets_value
    | tax | total => exact Decimal.meets_mul?
    | _ => rfl
  | nothing t =>
    cases t with
    | none => cases f <;> rfl
    | some t =>
      cases f with
      | tax => exact Decimal.meets_value
      | _ => rfl

/-- A total alone falls into two parts, whatever was rounded. -/
theorem Completes.exists_parts {s : Decimal} (h : Completes r gross ⟨none, none, some s⟩ completed)
    (hone : 1 ≤ gross.value) (htwo : gross.value ≤ 2) :
    ∃ b t, completed = ⟨some b, some t, some s⟩ ∧ b.value + t.value = s.value ∧
      IsPart b.value s.value ∧ IsPart t.value s.value := by
  obtain ⟨b, hb⟩ := Decimal.exists_div?_of_one_le hone s
  obtain ⟨t, ht, hvalue⟩ := Decimal.exists_sub?_quotient hone htwo hb
  have hpart := Decimal.isPart_of_div? hone hb
  cases h
  refine ⟨b, t, by rw [hb, Option.bind_some, ht], by linarith, hpart, ?_⟩
  rw [hvalue]
  exact hpart.sub

/-- A member stays open exactly where it is out of range or nothing determines it. -/
theorem Completes.member?_eq_none (h : Completes r gross known completed)
    (hone : known.NeedsRate → 1 ≤ gross.value) :
    completed.member? f = none ↔ ∀ x, known.due? r.value gross.value f = some x → OutOfRange x := by
  by_cases hparts : known.base ≠ none ∨ known.tax ≠ none ∨ known.total = none
  · exact (h.meets hparts f).eq_none_iff
  · cases h with
    | ofTotal s =>
      -- the parts of the total are found, and they are in range
      have hone := hone ⟨rfl, by simp⟩
      obtain ⟨b, hb⟩ := Decimal.exists_div?_of_one_le hone s
      have hin : ∀ {x : ℚ}, IsPart x s.value → ¬ OutOfRange x := fun hx =>
        Decimal.not_outOfRange_of_abs_le (hx.abs_le.trans s.abs_value_le)
      have hdue := Decimal.isPart_div hone s.value
      cases f with
      | base => simp [member?, hb, due?, hin hdue]
      | tax =>
        have hrest := Decimal.isPart_of_div? hone hb
        cases ht : s.sub? b with
        | none => exact absurd (Decimal.sub?_eq_none.mp ht) (hin hrest.sub)
        | some t => simp [member?, hb, ht, due?, hin hdue.sub]
      | total => simp [member?, due?, s.not_outOfRange_value]
      | _ => simp [member?, due?]
    | _ => simp at hparts

end Amounts

end InvoiceFields
