import InvoiceFields.Extraction

/-!
# Looking up fields of an extraction

An extraction is known by its look-ups: each operation on extractions is described by what
`get?` finds afterwards, and the tests on extractions by what it finds in them. `Forall` is a
condition that every value meets.
-/

namespace InvoiceFields

/-! ### The fields in order -/

namespace Field

theorem mem_all (f : Field) : f ∈ all := by cases f <;> decide

/-- The list of all fields is in output order. -/
theorem all_pairwise_index : all.Pairwise (·.index < ·.index) := by decide

end Field

namespace Extraction

variable {e other : Extraction} {f g : Field} {v : FieldValue}

/-! ### Operations -/

@[ext]
theorem ext {a b : Extraction} (h : ∀ f, a.get? f = b.get? f) : a = b := by
  cases a
  cases b
  exact congrArg mk (funext h)

@[simp]
theorem get?_empty (f : Field) : empty.get? f = none := rfl

@[simp]
theorem get?_put (e : Extraction) (f g : Field) (v : Option FieldValue) :
    (e.put f v).get? g = if g = f then v else e.get? g := rfl

@[simp]
theorem get?_set (e : Extraction) (f g : Field) (v : FieldValue) :
    (e.set f v).get? g = if g = f then some v else e.get? g := rfl

@[simp]
theorem get?_remove (e : Extraction) (f g : Field) :
    (e.remove f).get? g = if g = f then none else e.get? g := rfl

@[simp]
theorem get?_orElse (e other : Extraction) (f : Field) :
    (e.orElse other).get? f = (e.get? f).or (other.get? f) := rfl

/-- Putting back what stands in a field changes nothing. -/
theorem put_get?_self (e : Extraction) (f : Field) : e.put f (e.get? f) = e := by
  ext g
  rw [get?_put]
  split
  case isTrue hg => rw [hg]
  case isFalse => rfl

/-! ### Tests -/

theorem contains_eq_true : e.contains f = true ↔ e.get? f ≠ none :=
  Option.isSome_iff_ne_none

theorem contains_eq_false : e.contains f = false ↔ e.get? f = none := by
  rw [contains, Option.isSome_eq_false_iff, Option.isNone_iff_eq_none]

theorem hasTotals_eq_true : e.hasTotals = true ↔ e.get? .base ≠ none ∨ e.get? .total ≠ none := by
  rw [hasTotals, Bool.or_eq_true, contains_eq_true, contains_eq_true]

theorem hasTotals_eq_false : e.hasTotals = false ↔ e.get? .base = none ∧ e.get? .total = none := by
  rw [hasTotals, Bool.or_eq_false_iff, contains_eq_false, contains_eq_false]

/-- An extraction is empty when every field is open. -/
theorem isEmpty_eq_true : e.isEmpty = true ↔ ∀ f, e.get? f = none := by
  rw [isEmpty, List.isEmpty_iff, entries, List.filterMap_eq_nil_iff]
  exact ⟨fun h f => by simpa using h f (Field.mem_all f), fun h f _ => by simp [h f]⟩

/-- The missing fields are those that only the other extraction has. -/
theorem mem_missing : f ∈ e.missing other ↔ e.get? f = none ∧ other.get? f ≠ none := by
  rw [missing, List.mem_filter, Bool.and_eq_true, Bool.not_eq_true', contains_eq_true,
    contains_eq_false]
  exact ⟨fun h => ⟨h.2.2, h.2.1⟩, fun h => ⟨Field.mem_all f, h.2, h.1⟩⟩

/-- The missing fields are listed in output order, each of them once. -/
theorem missing_pairwise_index (e other : Extraction) :
    (e.missing other).Pairwise (·.index < ·.index) :=
  Field.all_pairwise_index.filter _

/-! ### Conditions on all values -/

/-- Every value of an extraction meets a condition on it and its field. -/
def Forall (P : Field → FieldValue → Prop) (e : Extraction) : Prop :=
  ∀ f v, e.get? f = some v → P f v

variable {P : Field → FieldValue → Prop}

theorem forall_empty : Forall P .empty := fun _ _ h => nomatch h

theorem Forall.put {v? : Option FieldValue} (h : e.Forall P) (hv : ∀ v, v? = some v → P f v) :
    (e.put f v?).Forall P := by
  intro g w hw
  rw [get?_put] at hw
  split at hw
  case isTrue hgf => exact hgf ▸ hv w hw
  case isFalse => exact h g w hw

theorem Forall.set (h : e.Forall P) (hv : P f v) : (e.set f v).Forall P :=
  h.put fun _ hw => Option.some.inj hw ▸ hv

end Extraction

/-- A list of fields in output order is known by its members. -/
theorem Field.eq_of_pairwise_index {l l' : List Field} (h : l.Pairwise (·.index < ·.index))
    (h' : l'.Pairwise (·.index < ·.index)) (hmem : ∀ f, f ∈ l ↔ f ∈ l') : l = l' := by
  have hne : ∀ {f g : Field}, f.index < g.index → f ≠ g := by
    rintro f _ hfg rfl
    exact Nat.lt_irrefl _ hfg
  have hperm : l.Perm l' := (List.perm_ext_iff_of_nodup (h.imp hne) (h'.imp hne)).mpr hmem
  exact hperm.eq_of_pairwise (fun _ _ _ _ hfg hgf => absurd hgf (Nat.lt_asymm hfg)) h h'

end InvoiceFields
