import InvoiceFields.Proofs.Extraction.Completion
import InvoiceFields.Proofs.Extraction.Lookup

/-!
# What derivation adds

Derivation completes base, tax and total and puts the members that were open into the extraction,
rounded to cents. `derive_eq_ok` says so by look-ups: a field that was resolved keeps its value,
an open one of the three takes the completed member, and every other field stays open. It breaks
down only where a rate is needed that cannot be added to one.
-/

namespace InvoiceFields.Extraction

/-- A completed member as the value of its field. -/
def derived? (completed : Amounts) (f : Field) : Option FieldValue :=
  (completed.member? f).map fun d => .amount (Amount.toCents d)

variable {e e' : Extraction} {completed : Amounts} {rate : VatRate} {added : List Field}

/-! ### Additions -/

private theorem get?_foldl_set {l : List (Field × Decimal)} (hl : (l.map (·.1)).Nodup)
    (e : Extraction) (f : Field) :
    (l.foldl (fun e (g, d) => e.set g (.amount d)) e).get? f =
      ((l.lookup f).map .amount).or (e.get? f) := by
  induction l generalizing e with
  | nil => rfl
  | cons gd l ih =>
    obtain ⟨g, d⟩ := gd
    rw [List.map_cons, List.nodup_cons] at hl
    rw [List.foldl_cons, ih hl.2, List.lookup_cons, get?_set]
    by_cases hfg : f = g
    · -- `g` is not set again further on
      have hnone : l.lookup f = none := by
        rw [List.lookup_eq_none_iff]
        intro p hp
        have : p.1 ≠ f := fun h => hl.1 (List.mem_map.mpr ⟨p, hp, h.trans hfg⟩)
        simpa [beq_iff_eq] using this.symm
      rw [hnone, if_pos hfg, beq_iff_eq.mpr hfg]
      rfl
    · rw [if_neg hfg, beq_eq_false_iff_ne.mpr hfg]

/-- The members that are open in `e`, of the three fields in the order of reporting. -/
private theorem additions_eq (e : Extraction) (completed : Amounts) :
    e.additions completed = [Field.total, .base, .tax].filterMap fun f =>
      (if e.contains f then none else (completed.member? f).map Amount.toCents).map (f, ·) := by
  have h : ∀ f v, (if e.contains f = true then none else Option.map (f, Amount.toCents ·) v) =
      (if e.contains f = true then none else v.map Amount.toCents).map (f, ·) := by
    intro f v
    split <;> simp [Function.comp_def]
  simp only [additions, List.filterMap_cons, List.filterMap_nil, h, Amounts.member?]

private theorem lookup_filterMap (value? : Field → Option Decimal) (l : List Field) (f : Field) :
    (l.filterMap fun g => (value? g).map (g, ·)).lookup f =
      if f ∈ l then value? f else none := by
  induction l with
  | nil => rfl
  | cons g l ih =>
    rw [List.filterMap_cons]
    by_cases hfg : f = g
    · subst hfg
      cases hf : value? f with
      | none => simp [ih, hf]
      | some d => simp
    · cases hg : value? g with
      | none => simp [ih, hfg]
      | some d =>
        have hne : (f == g) = false := beq_eq_false_iff_ne.mpr hfg
        simp only [Option.map_some, List.lookup_cons, hne, ih, List.mem_cons, hfg, false_or]

private theorem map_fst_filterMap (value? : Field → Option Decimal) (l : List Field) :
    (l.filterMap fun g => (value? g).map (g, ·)).map (·.1) =
      l.filter fun g => (value? g).isSome := by
  induction l with
  | nil => rfl
  | cons g l ih =>
    rw [List.filterMap_cons, List.filter_cons]
    cases hg : value? g with
    | none => simp [ih]
    | some d => simp [ih]

/-- The fields added are those of the three that are open and have a completed member. -/
private theorem map_fst_additions (e : Extraction) (completed : Amounts) :
    (e.additions completed).map (·.1) =
      [Field.total, .base, .tax].filter fun f =>
        !e.contains f && (completed.member? f).isSome := by
  rw [additions_eq, map_fst_filterMap]
  congr 1
  funext f
  cases e.contains f <;> simp

private theorem lookup_additions (e : Extraction) (completed : Amounts) (f : Field) :
    (e.additions completed).lookup f =
      if e.contains f then none else (completed.member? f).map Amount.toCents := by
  rw [additions_eq, lookup_filterMap]
  by_cases hf : f ∈ [Field.total, .base, .tax]
  · rw [if_pos hf]
  · have hnone : completed.member? f = none := by
      cases f <;> first | rfl | exact absurd (by decide) hf
    rw [if_neg hf, hnone, Option.map_none, ite_self]

/-! ### Derivation -/

/-- Derivation keeps resolved fields, puts the completed members into open ones, rounded to cents,
and reports the fields that it fills. -/
theorem derive_eq_ok :
    e.derive rate = .ok (e', added) ↔
      ∃ completed, e.amounts.complete rate = .ok completed ∧
        (∀ f, e'.get? f = (e.get? f).or (derived? completed f)) ∧
        added = [Field.total, .base, .tax].filter fun f =>
          !e.contains f && (completed.member? f).isSome := by
  have hget : ∀ completed f,
      ((e.additions completed).foldl (fun e (g, d) => e.set g (.amount d)) e).get? f =
        (e.get? f).or (derived? completed f) := by
    intro completed f
    have hnd : ((e.additions completed).map (·.1)).Nodup := by
      rw [map_fst_additions]
      exact List.filter_sublist.nodup (by decide)
    rw [get?_foldl_set hnd, lookup_additions]
    cases hf : e.get? f with
    | none => simp [contains_eq_false.mpr hf, derived?, Function.comp_def]
    | some v => simp [contains_eq_true.mpr (by simp [hf] : e.get? f ≠ none)]
  simp only [derive, bind_eq_ok, pure_eq_ok, Prod.mk.injEq, map_fst_additions]
  refine exists_congr fun completed => and_congr_right fun _ => and_congr ?_ eq_comm
  exact ⟨fun h => h ▸ hget completed, fun h => ext fun f => (hget completed f).trans (h f).symm⟩

/-- Derivation answers where the rate can be added to one. -/
theorem derive_ne_error {fault : Breakdown} (h : rate.Addable) : e.derive rate ≠ .error fault := by
  obtain ⟨completed, hcompleted⟩ := Amounts.exists_complete_eq_ok h e.amounts
  rw [derive, hcompleted]
  exact pure_ne_error

/-- What holds of all values before derivation and of amounts in monetary fields holds of all values
after it. -/
theorem Forall.derive {P : Field → FieldValue → Prop} (he : e.Forall P)
    (hamount : ∀ f d, f.isMonetary = true → P f (.amount d))
    (h : e.derive rate = .ok (e', added)) : e'.Forall P := by
  obtain ⟨completed, -, hget, -⟩ := derive_eq_ok.mp h
  intro f v hv
  rw [hget, Option.or_eq_some_iff] at hv
  rcases hv with hv | ⟨-, hv⟩
  · exact he f v hv
  · obtain ⟨d, hd, rfl⟩ := Option.map_eq_some_iff.mp hv
    exact hamount f _ (Amounts.isMonetary_of_member? hd)

end InvoiceFields.Extraction
