import InvoiceFields.Derivation
import InvoiceFields.Proofs.Answer

/-!
# How amounts are completed

`Amounts.Completes` lists the ways in which amounts are completed, one for each choice of known
members, and `Amounts.complete_eq_ok` says that completion follows it. The rate is needed in two of
them only, and there completion breaks down where the rate cannot be added to one
(`Amounts.complete_eq_error`).
-/

namespace InvoiceFields

variable {rate : VatRate}

/-- The member of some amounts that a field stands for. Only base, tax and total have one. -/
def Amounts.member? (a : Amounts) : Field → Option Decimal
  | .total => a.total
  | .base => a.base
  | .tax => a.tax
  | _ => none

theorem Amounts.isMonetary_of_member? {a : Amounts} {f : Field} {d : Decimal}
    (h : a.member? f = some d) : f.isMonetary = true := by
  cases f <;> first | rfl | exact nomatch h

/-- A rate that can be added to one. -/
def VatRate.Addable (rate : VatRate) : Prop := ∃ gross, rate.gross = .ok gross

theorem baseFromTotal_eq_ok {total : Decimal} {base : Option Decimal} :
    baseFromTotal total rate = .ok base ↔
      ∃ gross, rate.gross = .ok gross ∧ total.div? gross = base := by
  simp only [baseFromTotal, bind_eq_ok, pure_eq_ok]

theorem totalAndTax_eq_ok {base : Decimal} {both : Option Decimal × Option Decimal} :
    totalAndTax base rate = .ok both ↔
      ∃ gross, rate.gross = .ok gross ∧ (base.mul? gross, base.mul? rate.fraction) = both := by
  simp only [totalAndTax, bind_eq_ok, pure_eq_ok]

namespace Amounts

/-- The completion of some amounts by a rate and the gross multiplier that goes with it. -/
inductive Completes (rate gross : Decimal) : Amounts → Amounts → Prop
  | full (b t s : Decimal) :
      Completes rate gross ⟨some b, some t, some s⟩ ⟨some b, some t, some s⟩
  | tax (b s : Decimal) :
      Completes rate gross ⟨some b, none, some s⟩ ⟨some b, s.sub? b, some s⟩
  | total (b t : Decimal) :
      Completes rate gross ⟨some b, some t, none⟩ ⟨some b, some t, b.add? t⟩
  | base (t s : Decimal) :
      Completes rate gross ⟨none, some t, some s⟩ ⟨s.sub? t, some t, some s⟩
  | ofTotal (s : Decimal) :
      Completes rate gross ⟨none, none, some s⟩
        ⟨s.div? gross, (s.div? gross).bind s.sub?, some s⟩
  | ofBase (b : Decimal) :
      Completes rate gross ⟨some b, none, none⟩ ⟨some b, b.mul? rate, b.mul? gross⟩
  | nothing (t : Option Decimal) : Completes rate gross ⟨none, t, none⟩ ⟨none, t, none⟩

variable {known completed : Amounts} {r gross d : Decimal} {fault : Breakdown} {f : Field}

/-- Of base and total one is known, and the tax is open: the others depend on the rate. -/
def NeedsRate (known : Amounts) : Prop :=
  known.tax = none ∧ known.base.isSome ≠ known.total.isSome

/-- Some way of completion applies to any amounts. -/
theorem exists_completes (r gross : Decimal) (known : Amounts) :
    ∃ completed, Completes r gross known completed := by
  obtain ⟨base, tax, total⟩ := known
  cases base <;> cases tax <;> cases total <;> exact ⟨_, by constructor⟩

/-- Completion follows the relation; the rate is opened only where it is needed. -/
theorem Completes.complete_eq (h : Completes rate.fraction gross known completed)
    (hgross : known.NeedsRate → rate.gross = .ok gross) :
    known.complete rate = .ok completed := by
  cases h with
  | full | tax | total | base => rfl
  | nothing t => cases t <;> rfl
  | ofTotal s =>
    have hbase : baseFromTotal s rate = .ok (s.div? gross) :=
      baseFromTotal_eq_ok.mpr ⟨gross, hgross ⟨rfl, by simp⟩, rfl⟩
    simp only [complete, hbase]
    rfl
  | ofBase b =>
    have hboth : totalAndTax b rate = .ok (b.mul? gross, b.mul? rate.fraction) :=
      totalAndTax_eq_ok.mpr ⟨gross, hgross ⟨rfl, by simp⟩, rfl⟩
    simp only [complete, hboth]
    rfl

/-- Where the rate can be added to one or is not needed, completion follows the relation. -/
theorem complete_eq_ok (hgross : known.NeedsRate → rate.gross = .ok gross) :
    known.complete rate = .ok completed ↔ Completes rate.fraction gross known completed := by
  refine ⟨fun h => ?_, fun h => h.complete_eq hgross⟩
  obtain ⟨completed', h'⟩ := exists_completes rate.fraction gross known
  obtain rfl := Except.ok.inj ((h'.complete_eq hgross).symm.trans h)
  exact h'

/-- Completion answers where the rate can be added to one. -/
theorem exists_complete_eq_ok (h : rate.Addable) (known : Amounts) :
    ∃ completed, known.complete rate = .ok completed := by
  obtain ⟨gross, hgross⟩ := h
  obtain ⟨completed, hcompletes⟩ := exists_completes rate.fraction gross known
  exact ⟨completed, hcompletes.complete_eq fun _ => hgross⟩

/-- Completion breaks down only on a rate that it needs. -/
theorem complete_eq_error :
    known.complete rate = .error fault ↔ known.NeedsRate ∧ rate.gross = .error fault := by
  obtain ⟨base, tax, total⟩ := known
  cases base <;> cases tax <;> cases total <;>
    simp [complete, baseFromTotal, totalAndTax, bind_eq_error, pure_ne_error, NeedsRate,
      -bind_pure_comp]

/-- Known members stay as they are. -/
theorem Completes.keeps (h : Completes r gross known completed) (hd : known.member? f = some d) :
    completed.member? f = some d := by
  cases h <;> cases f <;> first | exact hd | exact nomatch hd

/-- Where neither the base nor the total is known, nothing is added. -/
theorem Completes.eq_known (h : Completes r gross known completed) (hbase : known.base = none)
    (htotal : known.total = none) : completed = known := by
  cases h with
  | nothing => rfl
  | _ => simp at hbase htotal

end Amounts

end InvoiceFields
