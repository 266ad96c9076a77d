import InvoiceFields.Proofs.Date.Rereading
import InvoiceFields.Proofs.Heuristics.Scan
import InvoiceFields.Proofs.Pattern.Spans

/-!
# Where dates are located

The dates of a text are slices of it, and no two of them start at one place, so they stand in the
order of their first characters. A date is located again in its own slice, as the only one and as
the same day (`locate_rereads`); so what the heuristics report as a date is read as the day that was
found.
-/

namespace InvoiceFields.Date

open Text (byteLength isBlank isDecimalDigit)

variable {text : String} {found found' : Found Date} {cs back back' : List Char}

/-! ### Slices -/

/-- The dates of both forms come from matches of their patterns. -/
theorem exists_mem_findAll_of_mem_locate (h : found ∈ locate text) :
    ∃ p : Pattern, ∃ m ∈ p.findAll text.toList, m.span = found.span := by
  rw [locate, List.mem_mergeSort, List.mem_append] at h
  rcases h with h | h <;>
  · obtain ⟨m, hm, hfound⟩ := List.mem_filterMap.mp h
    obtain ⟨date, -, rfl⟩ := Option.map_eq_some_iff.mp hfound
    exact ⟨_, m, hm, rfl⟩

/-- A date that is located is a slice of the text. -/
theorem isSliceOf_of_mem_locate (h : found ∈ locate text) : found.span.IsSliceOf text := by
  obtain ⟨p, m, hm, hspan⟩ := exists_mem_findAll_of_mem_locate h
  rw [← hspan]
  exact Pattern.isSliceOf_of_mem_findAll hm

/-- A date is located in its own slice, and nothing else is. -/
theorem locate_slice (h : found ∈ locate text) :
    locate found.span.text = [⟨found.value, .whole found.span.text⟩] := by
  obtain ⟨w, -, -, -, htext, hdate⟩ := exists_writing_of_mem_locate h
  obtain ⟨span, hspan, hlocate⟩ :=
    locate_eq (List.forall_mem_nil _) (List.forall_mem_nil _) rfl rfl w
  rw [List.nil_append, List.append_nil, ← htext, hdate] at hlocate
  replace hlocate : locate found.span.text = [⟨found.value, span⟩] := hlocate
  rw [← htext] at hspan
  -- the span is a slice of the slice, and has the whole text
  have hslice : span.IsSliceOf span.text := by
    rw [hspan]
    exact isSliceOf_of_mem_locate (hlocate ▸ List.mem_cons_self)
  rw [hlocate, hslice.eq_whole, hspan]

/-! ### The order of dates -/

/-- A date in numbers does not begin like one with the month in words: behind the day it has a
mark. -/
theorem Numeric.append_ne_long (w : Numeric) (w' : Long) :
    (Writing.numeric w).text ++ back ≠ (Writing.long w').text ++ back' := by
  intro h
  simp only [Writing.text, List.append_assoc, List.cons_append] at h
  obtain ⟨c, gap, hgap⟩ := List.exists_cons_of_ne_nil w'.isGap_gap₁.1
  have hblank : isBlank c = true := w'.isGap_gap₁.2 c (hgap ▸ List.mem_cons_self)
  rw [hgap, List.cons_append] at h
  obtain ⟨-, hrest⟩ := Text.run_unique w.isShort_day.2 w'.isShort_day.2
    (by rintro d ⟨⟩; exact (isDecimalDigit_of_isMark w.isMark_first).1)
    (by rintro d ⟨⟩; exact isDecimalDigit_of_isBlank hblank) h
  obtain ⟨rfl, -⟩ := List.cons.inj hrest
  rw [(isDecimalDigit_of_isMark w.isMark_first).2] at hblank
  exact Bool.false_ne_true hblank

/-- The dates that are read from the matches of one pattern start one behind the other. -/
theorem pairwise_filterMap (p : Pattern) (read : Pattern.Match → Option Date) (cs : List Char) :
    ((p.findAll cs).filterMap fun m => (read m).map (⟨·, m.span⟩ : Date → Found Date)).Pairwise
      fun a b => a.span.start < b.span.start := by
  refine (Pattern.pairwise_filterMap_findAll (fun m found h => ?_) p cs).imp And.left
  obtain ⟨date, -, rfl⟩ := Option.map_eq_some_iff.mp h
  rfl

/-- Dates of different forms do not start at one place. -/
theorem start_ne (h : found ∈ locateNumeric text.toList) (h' : found' ∈ locateLong text.toList) :
    found.span.start ≠ found'.span.start := by
  intro hstart
  obtain ⟨m, hm, hfound⟩ := List.mem_filterMap.mp h
  obtain ⟨date, -, rfl⟩ := Option.map_eq_some_iff.mp hfound
  obtain ⟨m', hm', hfound'⟩ := List.mem_filterMap.mp h'
  obtain ⟨date', -, rfl⟩ := Option.map_eq_some_iff.mp hfound'
  obtain ⟨front, back, htext, hfront, -⟩ := Pattern.isSliceOf_of_mem_findAll hm
  obtain ⟨front', back', htext', hfront', -⟩ := Pattern.isSliceOf_of_mem_findAll hm'
  obtain ⟨-, _, -, _, -, ⟨w, rfl, -⟩, hholds, -, -⟩ :=
    Pattern.exists_of_mem_findAll_bounded captures_numeric worded_numeric hm
  obtain ⟨-, _, -, _, -, ⟨w', rfl, -⟩, hholds', -, -⟩ :=
    Pattern.exists_of_mem_findAll_bounded captures_long worded_long hm'
  obtain ⟨-, hrest⟩ := Text.append_inj_of_byteLength (htext.symm.trans htext')
    (hfront.symm.trans (hstart.trans hfront'))
  rw [hholds.text_eq, hholds'.text_eq, String.toList_ofList, String.toList_ofList] at hrest
  exact w.append_ne_long w' hrest

/-- The dates of a text stand in the order of their first characters, and no two of them have the
same. -/
theorem pairwise_locate (text : String) :
    (locate text).Pairwise fun a b => a.span.start < b.span.start := by
  have hsorted : (locate text).Pairwise fun a b => decide (a.span.start ≤ b.span.start) = true := by
    refine List.pairwise_mergeSort (fun a b c hab hbc => ?_) (fun a b => ?_) _
    · rw [decide_eq_true_eq] at hab hbc ⊢
      exact Nat.le_trans hab hbc
    · rw [Bool.or_eq_true, decide_eq_true_eq, decide_eq_true_eq]
      exact Nat.le_total _ _
  have hboth : (locateNumeric text.toList ++ locateLong text.toList).Pairwise
      fun a b => a.span.start ≠ b.span.start :=
    List.pairwise_append.mpr ⟨(pairwise_filterMap _ _ _).imp Nat.ne_of_lt,
      (pairwise_filterMap _ _ _).imp Nat.ne_of_lt, fun _ h _ h' => start_ne h h'⟩
  have hdiffer : (locate text).Pairwise fun a b => a.span.start ≠ b.span.start :=
    ((List.mergeSort_perm _ _).pairwise_iff Ne.symm).mpr hboth
  refine (hsorted.and hdiffer).imp fun ⟨hle, hne⟩ => ?_
  exact Nat.lt_of_le_of_ne (of_decide_eq_true hle) hne

/-! ### The main statement -/

/-- The first date of a text, as it is written, is read as the same day. -/
theorem parse?_of_find? {source : String} (h : find? text = some source) :
    ∃ date, parse? text = some date ∧ parse? source = some date := by
  obtain ⟨found, hfound, rfl⟩ := Option.map_eq_some_iff.mp h
  refine ⟨found.value, by rw [parse?, hfound, Option.map_some], ?_⟩
  rw [parse?, locate_slice (List.mem_of_head? hfound)]
  rfl

/-- **Located dates are read again.** The dates of a text stand in the order of their first
characters, and each is a slice of the text in which nothing but the same date is located. So the
first date of a text is read again as the same day, and so is the date that the heuristics report
for a document. -/
theorem locate_rereads (text : String) :
    (locate text).Pairwise (fun a b => a.span.start < b.span.start) ∧
    (∀ found ∈ locate text, found.span.IsSliceOf text ∧
      locate found.span.text = [⟨found.value, .whole found.span.text⟩]) ∧
    (∀ source, find? text = some source →
      ∃ date, parse? text = some date ∧ parse? source = some date) ∧
    ∀ (doc : Document) settings e v, Heuristics.scan doc settings = .ok e →
      e.get? .date = some v → ∃ line ∈ doc.lines, ∃ source date, v = .text source ∧
        parse? line = some date ∧ parse? source = some date := by
  refine ⟨pairwise_locate text, fun found h => ⟨isSliceOf_of_mem_locate h, locate_slice h⟩,
    fun source => parse?_of_find?, fun doc settings e v hscan hv => ?_⟩
  obtain ⟨_, _, -, -, hfields⟩ := Heuristics.scan_eq_ok.mp hscan
  rw [hfields, Heuristics.scanned?, Option.map_eq_some_iff] at hv
  obtain ⟨source, hsource, rfl⟩ := hv
  obtain ⟨line, hline, hfind⟩ := List.exists_of_findSome?_eq_some hsource
  obtain ⟨date, hdate, hdate'⟩ := parse?_of_find? hfind
  exact ⟨line, hline, source, date, rfl, hdate, hdate'⟩

/-- Dates of different forms may overlap. Each of them is located again in its own slice. -/
theorem locate_rereads_overlapping :
    (⟨⟨2015, 2, 1, by decide, by decide⟩, ⟨0, 8, "01/02/15"⟩⟩ : Found Date) ∈
        locate "01/02/15 de enero de 2024" ∧
      (⟨⟨2024, 1, 15, by decide, by decide⟩, ⟨6, 25, "15 de enero de 2024"⟩⟩ : Found Date) ∈
        locate "01/02/15 de enero de 2024" ∧
      locate "15 de enero de 2024" =
        [⟨⟨2024, 1, 15, by decide, by decide⟩, ⟨0, 19, "15 de enero de 2024"⟩⟩] := by
  have hnumeric : (⟨⟨2015, 2, 1, by decide, by decide⟩, ⟨0, 8, "01/02/15"⟩⟩ : Found Date) ∈
      locate "01/02/15 de enero de 2024" := by
    rw [locate, List.mem_mergeSort, List.mem_append]
    exact .inl (by decide +kernel)
  have hlong : (⟨⟨2024, 1, 15, by decide, by decide⟩, ⟨6, 25, "15 de enero de 2024"⟩⟩ :
      Found Date) ∈ locate "01/02/15 de enero de 2024" := by
    rw [locate, List.mem_mergeSort, List.mem_append]
    exact .inr (by decide +kernel)
  have hwhole : Span.whole "15 de enero de 2024" = ⟨0, 19, "15 de enero de 2024"⟩ := by
    decide +kernel
  refine ⟨hnumeric, hlong, ?_⟩
  rw [← hwhole]
  exact ((locate_rereads _).2.1 _ hlong).2

end InvoiceFields.Date
