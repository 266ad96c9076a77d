import InvoiceFields.Proofs.Amount.Match
import InvoiceFields.Proofs.Pattern.Cutting

/-!
# Where amounts are located

The amounts of a line are slices of it without a common character, and each is the value that its
own slice is read as. The pattern of amounts looks at nothing but the amount, so an amount is
located in its own slice, as the only one and with the same value (`locate_selfContained`).
-/

namespace InvoiceFields.Amount

variable {line : String} {found : Found Decimal}

/-- No word boundary and no end of the line belongs to an amount. -/
theorem isInward_amount : Pattern.amount.isInward = true := by decide +kernel

/-- Nothing stands behind the whole of a text. -/
private theorem after_whole (text : String) (groups : List (Nat × Span)) :
    Pattern.Match.after ⟨.whole text, groups⟩ text.toList = [] := by
  have hsplits : Pattern.Match.Splits ⟨.whole text, groups⟩ [] text.toList :=
    ⟨String.ofList_toList.symm, rfl, (Text.byteLength_toList text).symm⟩
  have hafter := hsplits.after_eq []
  rwa [List.nil_append, List.append_nil] at hafter

/-- An amount is located in its own slice, and nothing else is. -/
theorem locate_slice (h : found ∈ locate line) :
    locate found.span.text = [⟨found.value, .whole found.span.text⟩] := by
  obtain ⟨hit, hhit, -, hspan, hvalue⟩ := mem_locate_iff.mp h
  obtain ⟨groups, hfind⟩ := Pattern.exists_findAll_text isInward_amount hhit
  have hnext : isPercentNext [] = false := rfl
  have hwhole : (Span.whole found.span.text).text = found.span.text := rfl
  rw [hspan] at hfind
  rw [locate, hfind, List.filterMap_cons, List.filterMap_nil, after_whole, hnext,
    if_neg Bool.false_ne_true, hwhole, hvalue]
  rfl

/-- The amounts of a line have no character in common. -/
theorem pairwise_locate (line : String) :
    (locate line).Pairwise fun a b => a.span.start < b.span.start ∧ a.span.stop ≤ b.span.start := by
  refine Pattern.pairwise_filterMap_findAll (fun hit found h => ?_) Pattern.amount line.toList
  split at h
  case isTrue => exact nomatch h
  case isFalse =>
    obtain ⟨value, -, rfl⟩ := Option.map_eq_some_iff.mp h
    rfl

/-! ### The main statement -/

/-- **Amounts stand for themselves.** The amounts of a line start one behind the other and have no
character in common. Each of them is a piece of the line between two characters that is not empty,
is the value that this piece is read as, and is located in this piece as all of it and nothing
else. -/
theorem locate_selfContained (line : String) :
    (locate line).Pairwise (fun a b =>
      a.span.start < b.span.start ∧ a.span.stop ≤ b.span.start) ∧
    ∀ found ∈ locate line, found.span.start < found.span.stop ∧
      String.Pos.Raw.IsValid line ⟨found.span.start⟩ ∧
      String.Pos.Raw.IsValid line ⟨found.span.stop⟩ ∧
      found.span.IsSliceOf line ∧
      normalize? found.span.text = some found.value ∧
      locate found.span.text = [⟨found.value, .whole found.span.text⟩] := by
  refine ⟨pairwise_locate line, fun found h => ?_⟩
  obtain ⟨hit, hhit, -, hspan, hvalue⟩ := mem_locate_iff.mp h
  have hslice : found.span.IsSliceOf line := hspan ▸ Pattern.isSliceOf_of_mem_findAll hhit
  have hlt := Pattern.start_lt_stop_of_mem_findAll hhit
  rw [hspan] at hlt
  exact ⟨hlt, hslice.isValid.1, hslice.isValid.2, hslice, hvalue, locate_slice h⟩

/-- Two amounts that touch: the first one is cut behind a group of three digits. -/
theorem locate_selfContained_touching :
    ⟨⟨1234, 3, by decide, by decide⟩, ⟨6, 11, "1.234"⟩⟩ ∈ locate "Base\u00a01.2345,60 €" ∧
      locate "1.234" = [⟨⟨1234, 3, by decide, by decide⟩, .whole "1.234"⟩] ∧
      (locate "Base\u00a01.2345,60 €").Pairwise (fun a b =>
        a.span.start < b.span.start ∧ a.span.stop ≤ b.span.start) := by
  have hmem : ⟨⟨1234, 3, by decide, by decide⟩, ⟨6, 11, "1.234"⟩⟩ ∈
      locate "Base\u00a01.2345,60 €" := by decide +kernel
  obtain ⟨hpairwise, hall⟩ := locate_selfContained "Base\u00a01.2345,60 €"
  obtain ⟨-, -, -, -, -, hlocate⟩ := hall _ hmem
  exact ⟨hmem, hlocate, hpairwise⟩

end InvoiceFields.Amount
