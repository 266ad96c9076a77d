import InvoiceFields.Proofs.Text.Bytes
import InvoiceFields.Proofs.Text.Capitals
import InvoiceFields.Proofs.Text.WordCharacters
import InvoiceFields.Text.Letter
import Mathlib.Data.List.Chain

/-!
# Letters and their capitals

The upper-case map changes nothing but letters (`isLetter_of_upperChar_ne`). The capitals of a text
may take more bytes than the text. They do not if they are ASCII, digits apart
(`byteLength_upperChars_le`), but then they may take fewer: `ſ` has two bytes, its capital `S` one.
-/

namespace InvoiceFields.Text

variable {c d : Char} {cs : List Char}

/-! ### Letters -/

/-- The numbers of the characters that have a single capital, apart from themselves. -/
private def singleRanges : List (Nat × Nat) :=
  (0x61, 0x7a) :: upperRuns.map fun run => (run.first, run.last)

/-- The numbers of the characters that have several capitals. -/
private def expandedRanges : List (Nat × Nat) := upperExpansions.map fun e => (e.1, e.1)

private theorem pairwise_of_isChain {ranges : List (Nat × Nat)}
    (h : (ranges.map (·.1)).IsChain (· ≤ ·)) : ranges.Pairwise (·.1 ≤ ·.1) :=
  List.pairwise_map.mp (List.isChain_iff_pairwise.mp h)

private theorem singleRanges_covered : coversRanges letterRanges singleRanges = true := by
  decide +kernel

private theorem expandedRanges_covered : coversRanges letterRanges expandedRanges = true := by
  decide +kernel

/-- What the upper-case map changes is a letter. -/
theorem isLetter_of_upperChar_ne (h : upperChar c ≠ [c]) : isLetter c = true := by
  by_contra hletter
  refine h (upperChar_eq_self fun a ha ⟨hlow, hhigh, _⟩ => hletter ?_)
  have hsingle : ∀ r ∈ singleRanges, r.1 ≤ c.toNat → c.toNat ≤ r.2 → isLetter c = true :=
    fun r hr => inRanges_of_mem_coversRanges (pairwise_of_isChain (by decide +kernel))
      singleRanges_covered hr
  have hexpanded : ∀ r ∈ expandedRanges, r.1 ≤ c.toNat → c.toNat ≤ r.2 → isLetter c = true :=
    fun r hr => inRanges_of_mem_coversRanges (pairwise_of_isChain (by decide +kernel))
      expandedRanges_covered hr
  rcases List.mem_cons.mp ha with rfl | ha
  · exact hsingle _ List.mem_cons_self hlow hhigh
  · rcases List.mem_append.mp ha with ha | ha
    · obtain ⟨run, hrun, rfl⟩ := List.mem_map.mp ha
      exact hsingle _ (List.mem_cons_of_mem _ (List.mem_map.mpr ⟨run, hrun, rfl⟩)) hlow hhigh
    · obtain ⟨e, he, rfl⟩ := List.mem_map.mp ha
      exact hexpanded _ (List.mem_map.mpr ⟨e, he, rfl⟩) hlow hhigh

/-- Capitals from `A` to `Z` are made of letters. -/
theorem isLetter_of_mem_upperChar (h : d ∈ upperChar c) (hlow : 'A' ≤ d) (hhigh : d ≤ 'Z') :
    isLetter c = true := by
  by_cases hself : upperChar c = [c]
  · rw [hself, List.mem_singleton] at h
    subst h
    have hcapital : inRanges [(0x41, 0x5a)] d.toNat = true := inRanges_singleton.mpr ⟨hlow, hhigh⟩
    exact inRanges_of_coversRanges (by decide +kernel) (by decide +kernel) hcapital
  · exact isLetter_of_upperChar_ne hself

/-! ### Bytes -/

/-- A character with several ASCII capitals has at least as many bytes. -/
private theorem length_le_of_mem_upperExpansions : ∀ e ∈ upperExpansions,
    (∀ n ∈ e.2, (Char.ofNat n).utf8Size = 1) → e.2.length ≤ (Char.ofNat e.1).utf8Size := by
  decide +kernel

/-- ASCII capitals are no more than the bytes of the character. -/
theorem length_upperChar_le (h : ∀ d ∈ upperChar c, d.utf8Size = 1) :
    (upperChar c).length ≤ c.utf8Size := by
  have hone : 1 ≤ c.utf8Size := c.utf8Size_pos
  rw [upperChar] at h ⊢
  split
  case isTrue => exact hone
  case isFalse hascii =>
    rw [if_neg hascii] at h
    split
    case h_2 => split <;> exact hone
    case h_1 image himage =>
      rw [himage] at h
      obtain ⟨l, r, hsplit, -⟩ := List.lookup_eq_some_iff.mp himage
      have hmem : (c.toNat, image) ∈ upperExpansions := by simp [hsplit]
      have hle := length_le_of_mem_upperExpansions _ hmem fun n hn => h _ (List.mem_map_of_mem hn)
      rwa [Char.ofNat_toNat, ← List.length_map (Char.ofNat)] at hle

/-- Capitals that are ASCII, digits apart, take no more bytes than the text. -/
theorem byteLength_upperChars_le
    (h : ∀ d ∈ upperChars cs, d.utf8Size = 1 ∨ isDecimalDigit d = true) :
    byteLength (upperChars cs) ≤ byteLength cs := by
  rw [upperChars] at h ⊢
  induction cs with
  | nil => exact Nat.le_refl _
  | cons c cs ih =>
    rw [List.flatMap_cons] at h ⊢
    obtain ⟨hc, hcs⟩ := List.forall_mem_append.mp h
    rw [byteLength_append, byteLength]
    refine Nat.add_le_add ?_ (ih hcs)
    by_cases hdigit : ∃ d ∈ upperChar c, isDecimalDigit d = true
    · -- a digit is made of itself only
      obtain ⟨d, hd, hdigit⟩ := hdigit
      obtain rfl := eq_of_mem_upperChar hd (.inl hdigit)
      rw [upperChar_of_mem hd, byteLength, byteLength, Nat.add_zero]
    · have hone : ∀ d ∈ upperChar c, d.utf8Size = 1 := fun d hd =>
        (hc d hd).resolve_right fun hdecimal => hdigit ⟨d, hd, hdecimal⟩
      rw [byteLength_eq_length hone]
      exact length_upperChar_le hone

end InvoiceFields.Text
