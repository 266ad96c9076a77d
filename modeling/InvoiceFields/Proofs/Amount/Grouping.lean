import InvoiceFields.Proofs.Amount.Numeral

/-!
# Groups of three

Digits are grouped in threes from the right: every group has three digits but for the first one,
which has at most three and no mark in front (`exists_inThrees`). Grouped digits are the whole part
of a numeral wherever no further group follows them (`whole_groupedBy`).
-/

namespace InvoiceFields.Amount

variable {ds rest : List Char} {c mark : Char} {p : Char → Bool}

/-- Digits with a mark before each group of three, counted from the end. -/
def groupedBy (mark : Char) : List Char → List Char
  | [] => []
  | c :: cs =>
    if cs.length % 3 = 0 && !cs.isEmpty then c :: mark :: groupedBy mark cs
    else c :: groupedBy mark cs

/-- Thousands are grouped by points. -/
theorem groupThousands_eq (ds : List Char) : groupThousands ds = groupedBy '.' ds := by
  induction ds with
  | nil => rfl
  | cons c cs ih => rw [groupThousands, groupedBy, ih]

/-! ### Characters -/

theorem mem_groupedBy (h : c ∈ groupedBy mark ds) : c = mark ∨ c ∈ ds := by
  induction ds with
  | nil => exact .inr h
  | cons d ds ih =>
    rw [groupedBy] at h
    split at h
    all_goals simp only [List.mem_cons] at h ⊢
    · rcases h with rfl | rfl | h
      · exact .inr (.inl rfl)
      · exact .inl rfl
      · exact (ih h).imp_right .inr
    · rcases h with rfl | h
      · exact .inr (.inl rfl)
      · exact (ih h).imp_right .inr

/-- Without the marks the digits are left. -/
theorem filter_groupedBy (hmark : p mark = false) (hds : ∀ d ∈ ds, p d = true) :
    (groupedBy mark ds).filter p = ds := by
  induction ds with
  | nil => rfl
  | cons d ds ih =>
    obtain ⟨hd, hds⟩ := List.forall_mem_cons.mp hds
    have hskip : ¬ p mark = true := by
      rw [hmark]
      exact Bool.false_ne_true
    rw [groupedBy]
    split
    · rw [List.filter_cons_of_pos hd, List.filter_cons_of_neg hskip, ih hds]
    · rw [List.filter_cons_of_pos hd, ih hds]

/-! ### Groups -/

/-- Digits in groups of three, counted from the end. -/
structure InThrees (ds first : List Char) (groups : List (List Char)) : Prop where
  digits_eq : ds = first ++ groups.flatten
  first_ne_nil : first ≠ []
  length_first_le : first.length ≤ 3
  length_eq : ∀ group ∈ groups, group.length = 3

/-- How many digits there are in all. -/
theorem InThrees.length_digits {first : List Char} {groups : List (List Char)}
    (h : InThrees ds first groups) : ds.length = first.length + 3 * groups.length := by
  have hsum : groups.flatten.length = 3 * groups.length := by
    rw [List.length_flatten, List.map_congr_left h.length_eq, List.map_const',
      List.sum_replicate_nat, Nat.mul_comm]
  rw [h.digits_eq, List.length_append, hsum]

/-- **Grouped digits.** The mark stands in front of each group of three but the first group. -/
theorem exists_inThrees (hne : ds ≠ []) : ∃ first groups, InThrees ds first groups ∧
    ∀ mark, groupedBy mark ds = first ++ groups.flatMap (mark :: ·) := by
  induction ds with
  | nil => exact absurd rfl hne
  | cons c cs ih =>
    rcases eq_or_ne cs [] with rfl | hcs
    · exact ⟨[c], [], ⟨rfl, List.cons_ne_nil _ _, by simp, List.forall_mem_nil _⟩, fun _ => rfl⟩
    · obtain ⟨first, groups, hgroups, hgrouped⟩ := ih hcs
      have hlength := hgroups.length_digits
      have hpos := List.length_pos_iff.mpr hgroups.first_ne_nil
      have hle := hgroups.length_first_le
      have hempty : (!cs.isEmpty) = true := by
        rw [List.isEmpty_eq_false_iff.mpr hcs]
        rfl
      by_cases hfull : first.length = 3
      · -- the digits so far fall into full groups, and a new one begins
        have hmod : cs.length % 3 = 0 := by omega
        refine ⟨[c], first :: groups, ⟨?_, List.cons_ne_nil _ _, by simp, ?_⟩, fun mark => ?_⟩
        · rw [List.flatten_cons, ← hgroups.digits_eq]
          rfl
        · exact List.forall_mem_cons.mpr ⟨hfull, hgroups.length_eq⟩
        · rw [groupedBy, hempty, decide_eq_true hmod, hgrouped]
          rfl
      · have hmod : cs.length % 3 ≠ 0 := by omega
        refine ⟨c :: first, groups, ⟨?_, List.cons_ne_nil _ _, ?_, hgroups.length_eq⟩,
          fun mark => ?_⟩
        · rw [List.cons_append, ← hgroups.digits_eq]
        · rw [List.length_cons]
          omega
        · rw [groupedBy, decide_eq_false hmod, hgrouped]
          rfl

example : groupedBy '.' "1234567".toList = "1.234.567".toList := by decide

/-! ### The whole part of a numeral -/

theorem grouped_flatMap (hmark : isGroupMark mark = true) {groups : List (List Char)}
    (hlength : ∀ group ∈ groups, group.length = 3)
    (hdigits : ∀ group ∈ groups, IsDigits group) : Grouped (groups.flatMap (mark :: ·)) := by
  induction groups with
  | nil => exact .nil
  | cons group groups ih =>
    obtain ⟨hthree, hlength⟩ := List.forall_mem_cons.mp hlength
    obtain ⟨hgroup, hdigits⟩ := List.forall_mem_cons.mp hdigits
    rw [List.flatMap_cons]
    exact .cons hmark hthree hgroup (ih hlength hdigits)

/-- Grouped digits are the whole part of a numeral. -/
theorem whole_groupedBy (hne : ds ≠ []) (hds : IsDigits ds) (hmark : isGroupMark mark = true)
    (hdigit : ¬ OpensDigit rest) (hgroup : ¬ OpensGroup rest) :
    Whole rest (groupedBy mark ds) := by
  obtain ⟨first, groups, hgroups, hgrouped⟩ := exists_inThrees hne
  rw [hgroups.digits_eq] at hds
  obtain ⟨hfirst, hothers⟩ := List.forall_mem_append.mp hds
  have hdigits : ∀ group ∈ groups, IsDigits group := fun group hmem d hd =>
    hothers d (List.mem_flatten_of_mem hmem hd)
  rw [hgrouped]
  rcases eq_or_ne groups [] with rfl | hsome
  · rw [List.flatMap_nil, List.append_nil]
    exact .plain hgroups.first_ne_nil hfirst hdigit fun h => absurd h hgroup
  · refine .grouped hgroups.first_ne_nil hgroups.length_first_le hfirst
      (grouped_flatMap hmark hgroups.length_eq hdigits) ?_ hgroup
    obtain ⟨group, groups, rfl⟩ := List.exists_cons_of_ne_nil hsome
    exact List.cons_ne_nil _ _

end InvoiceFields.Amount
