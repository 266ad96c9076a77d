import InvoiceFields.Proofs.Text.Blanks
import InvoiceFields.Text.Word

/-!
# Word characters

Digits and capitals are word characters: the ranges of the word characters cover those of the digits
of every script (`inRanges_of_coversRanges`).
-/

namespace InvoiceFields.Text

/-- Whether ascending ranges lie in some others, each in one of them. -/
def coversRanges : List (Nat × Nat) → List (Nat × Nat) → Bool
  | [], inner => inner.isEmpty
  | s :: outer, inner =>
    inner.head?.all (fun r => decide (s.1 ≤ r.1)) &&
      coversRanges outer (inner.dropWhile fun r => decide (r.2 ≤ s.2))

theorem inRanges_of_mem_coversRanges {outer inner : List (Nat × Nat)} {n : Nat} {r : Nat × Nat}
    (hsorted : inner.Pairwise (·.1 ≤ ·.1)) (h : coversRanges outer inner = true)
    (hr : r ∈ inner) (hlow : r.1 ≤ n) (hhigh : n ≤ r.2) : inRanges outer n = true := by
  -- a range that the first one does not cover is covered by the others
  induction outer generalizing inner with
  | nil =>
    rw [coversRanges, List.isEmpty_iff] at h
    exact nomatch h ▸ hr
  | cons s outer ih =>
    obtain ⟨hhead, hrest⟩ := Bool.and_eq_true_iff.mp h
    have hfirst : s.1 ≤ r.1 := by
      obtain ⟨r', inner, rfl⟩ := List.exists_cons_of_ne_nil (List.ne_nil_of_mem hr)
      have hle : s.1 ≤ r'.1 := of_decide_eq_true hhead
      rcases List.mem_cons.mp hr with rfl | hr
      · exact hle
      · exact Nat.le_trans hle (List.rel_of_pairwise_cons hsorted hr)
    rw [inRanges, Bool.and_eq_true, Bool.or_eq_true, decide_eq_true_iff, decide_eq_true_iff]
    refine ⟨Nat.le_trans hfirst hlow, ?_⟩
    rw [← List.takeWhile_append_dropWhile (p := fun r : Nat × Nat => decide (r.2 ≤ s.2))
      (l := inner)] at hr
    rcases List.mem_append.mp hr with hr | hr
    · have hcovered := List.all_eq_true.mp List.all_takeWhile r hr
      exact .inl (Nat.le_trans hhigh (of_decide_eq_true hcovered))
    · exact .inr (ih (hsorted.sublist (List.dropWhile_sublist _)) hrest hr)

theorem inRanges_of_coversRanges {outer inner : List (Nat × Nat)} {n : Nat}
    (hsorted : inner.Pairwise (·.1 ≤ ·.1)) (h : coversRanges outer inner = true)
    (hn : inRanges inner n = true) : inRanges outer n = true := by
  obtain ⟨r, hr, hlow, hhigh⟩ := exists_range_of_inRanges hn
  exact inRanges_of_mem_coversRanges hsorted h hr hlow hhigh

theorem inRanges_singleton {r : Nat × Nat} {n : Nat} :
    inRanges [r] n = true ↔ r.1 ≤ n ∧ n ≤ r.2 := by
  simp [inRanges]

/-- The digits of every script are word characters. -/
theorem isWordChar_of_isDecimalDigit {c : Char} (h : isDecimalDigit c = true) :
    isWordChar c = true :=
  inRanges_of_coversRanges (by decide +kernel) (by decide +kernel) h

theorem isWordChar_of_capital {c : Char} (hlow : 'A' ≤ c) (hhigh : c ≤ 'Z') :
    isWordChar c = true := by
  have hcapital : inRanges [(0x41, 0x5a)] c.toNat = true := inRanges_singleton.mpr ⟨hlow, hhigh⟩
  exact inRanges_of_coversRanges (by decide +kernel) (by decide +kernel) hcapital

end InvoiceFields.Text
