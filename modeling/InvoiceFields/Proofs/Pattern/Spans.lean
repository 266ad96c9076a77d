import InvoiceFields.Proofs.Pattern.Preference

/-!
# Where matches stand

The span of a match is a slice of the text it was found in: its text is what stands there between
its offsets (`isSliceOf_of_mem_findAll`), and none of these is inside a character
(`IsSliceOf.isValid`). The matches of a pattern take something and have no character in common
(`disjoint_findAll`), so they start one behind the other (`pairwise_findAll`). Where the pattern
matches right behind a match, the next one begins (`exists_mem_findAll_behind`).
-/

namespace InvoiceFields

open Text (byteLength)

/-! ### Slices -/

/-- A span is a slice of a text: the text has the span's text between its offsets. -/
def Span.IsSliceOf (span : Span) (text : String) : Prop :=
  ∃ front back, text.toList = front ++ (span.text.toList ++ back) ∧
    span.start = byteLength front ∧ span.stop = byteLength (front ++ span.text.toList)

/-- A slice begins and ends between two characters. -/
theorem Span.IsSliceOf.isValid {span : Span} {text : String} (h : span.IsSliceOf text) :
    String.Pos.Raw.IsValid text ⟨span.start⟩ ∧ String.Pos.Raw.IsValid text ⟨span.stop⟩ := by
  have hvalid : ∀ front back : List Char, text.toList = front ++ back →
      String.Pos.Raw.IsValid text ⟨byteLength front⟩ := by
    intro front back htext
    refine String.Pos.Raw.isValid_iff_exists_append.mpr ⟨.ofList front, .ofList back, ?_, ?_⟩
    · rw [← String.ofList_append, ← htext, String.ofList_toList]
    · rw [← Text.utf8ByteSize_ofList]
      rfl
  obtain ⟨front, back, htext, hstart, hstop⟩ := h
  rw [hstart, hstop]
  exact ⟨hvalid front _ htext, hvalid _ back (by rw [htext, List.append_assoc])⟩

/-- The span of a whole text. -/
def Span.whole (text : String) : Span := ⟨0, text.utf8ByteSize, text⟩

/-- The only slice of a text that has the whole text is the whole. -/
theorem Span.IsSliceOf.eq_whole {span : Span} (h : span.IsSliceOf span.text) :
    span = whole span.text := by
  obtain ⟨front, back, htext, hstart, hstop⟩ := h
  have hlength := congrArg List.length htext
  rw [List.length_append, List.length_append] at hlength
  obtain rfl : front = [] := List.eq_nil_of_length_eq_zero (by omega)
  rw [List.nil_append, Text.byteLength_toList] at hstop
  calc span = ⟨span.start, span.stop, span.text⟩ := rfl
    _ = whole span.text := by rw [hstart, hstop, byteLength, whole]

namespace Pattern

variable {p : Pattern} {a b : Place} {m : Match} {text : String}

/-- What is found in a text is a slice of it. -/
theorem isSliceOf_of_mem_findAll (h : m ∈ p.findAll text.toList) : m.span.IsSliceOf text := by
  obtain ⟨before, taken, _, b, htext, hsplits, -⟩ := exists_prefers_of_mem_findAll h
  refine ⟨before, b.rest, ?_, hsplits.start_eq, ?_⟩
  · rw [hsplits.text_eq, String.toList_ofList, htext, List.append_assoc]
  · rw [hsplits.stop_eq, hsplits.text_eq, String.toList_ofList]

/-! ### The order of matches -/

theorem Place.Follows.offset_le (h : a.Follows b) : a.offset ≤ b.offset := by
  obtain ⟨cs, -, -, hoffset⟩ := h
  rw [hoffset]
  exact Nat.le_add_right _ _

theorem Place.Follows.offset_lt (h : a.Follows b) (hlt : b.rest.length < a.rest.length) :
    a.offset < b.offset := by
  obtain ⟨cs, hrest, -, hoffset⟩ := h
  have hne : byteLength cs ≠ 0 := fun hzero => by
    rw [hrest, Text.byteLength_eq_zero.mp hzero] at hlt
    exact Nat.lt_irrefl _ hlt
  rw [hoffset]
  exact Nat.lt_add_of_pos_right (Nat.pos_of_ne_zero hne)

/-- A later match starts behind the place where a search starts. -/
theorem offset_le_of_mem_scan (h : m ∈ p.scan a) : a.offset ≤ m.span.start := by
  obtain ⟨a', b, hfollows, -, rfl⟩ := exists_prefers_of_mem_scan h
  exact hfollows.offset_le

/-- A match takes something. -/
theorem start_lt_stop_of_mem_scan (h : m ∈ p.scan a) : m.span.start < m.span.stop := by
  fun_induction scan p a with
  | case1 => exact absurd h List.not_mem_nil
  | case2 _ _ _ _ _ ih => exact ih h
  | case3 a _ _ _ b _ hsome hlt ih =>
    rcases List.mem_cons.mp h with rfl | h
    · have hb : p.Prefers { a with groups := [] } b := congrArg List.head? hsome
      exact (follows_of_mem_run (a := { a with groups := [] }) hb.mem_run).offset_lt hlt
    · exact ih h
  | case4 _ _ _ _ _ _ _ _ ih => exact ih h

theorem start_lt_stop_of_mem_findAll {cs : List Char} (h : m ∈ p.findAll cs) :
    m.span.start < m.span.stop := start_lt_stop_of_mem_scan h

theorem disjoint_scan (p : Pattern) (a : Place) :
    (p.scan a).Pairwise fun m m' => m.span.stop ≤ m'.span.start := by
  fun_induction scan p a with
  | case1 => exact .nil
  | case2 _ _ _ _ _ ih => exact ih
  -- the search goes on behind the match
  | case3 _ _ _ _ _ _ _ _ ih => exact .cons (fun _ hm => offset_le_of_mem_scan hm) ih
  | case4 _ _ _ _ _ _ _ _ ih => exact ih

/-- The matches of a pattern have no character in common. -/
theorem disjoint_findAll (p : Pattern) (cs : List Char) :
    (p.findAll cs).Pairwise fun m m' => m.span.stop ≤ m'.span.start := disjoint_scan p _

/-- The matches of a pattern start one behind the other. -/
theorem pairwise_findAll (p : Pattern) (cs : List Char) :
    (p.findAll cs).Pairwise fun m m' => m.span.start < m'.span.start :=
  (disjoint_findAll p cs).imp_of_mem fun hm _ hle =>
    Nat.lt_of_lt_of_le (start_lt_stop_of_mem_findAll hm) hle

/-- Behind a match a search goes on. -/
theorem exists_scan_behind (h : m ∈ p.scan a) :
    ∃ b, a.Follows b ∧ b.offset = m.span.stop ∧ ∀ m' ∈ p.scan b, m' ∈ p.scan a := by
  fun_induction scan p a with
  | case1 => exact absurd h List.not_mem_nil
  | case2 a c rest hrest hnone ih =>
    obtain ⟨b, hfollows, hrest'⟩ := ih h
    exact ⟨b, (Place.follows_advance hrest).trans hfollows, hrest'⟩
  | case3 a c rest hrest b others hsome hlt ih =>
    have hprefers : p.Prefers { a with groups := [] } b := congrArg List.head? hsome
    have hb : a.Follows b := follows_of_mem_run (a := { a with groups := [] }) hprefers.mem_run
    rcases List.mem_cons.mp h with rfl | h
    · exact ⟨b, hb, rfl, fun _ => List.mem_cons_of_mem _⟩
    · obtain ⟨b', hfollows, hoffset, hmem⟩ := ih h
      exact ⟨b', hb.trans hfollows, hoffset, fun m' hm' => List.mem_cons_of_mem _ (hmem m' hm')⟩
  | case4 a c rest hrest b others hsome hlt ih =>
    obtain ⟨b', hfollows, hrest'⟩ := ih h
    exact ⟨b', (Place.follows_advance hrest).trans hfollows, hrest'⟩

/-- Where a pattern takes something right behind a match, the next match begins. -/
theorem exists_mem_findAll_behind {before taken rest : List Char}
    (h : m ∈ p.findAll (before ++ taken ++ rest)) (hsplits : m.Splits before taken)
    (hnext : ∀ a : Place, a.rest = rest → ∃ b, p.Prefers a b ∧ b.rest.length < rest.length) :
    ∃ next ∈ p.findAll (before ++ taken ++ rest), next.span.start = m.span.stop := by
  obtain ⟨b, ⟨passed, hpassed, -, hoffset⟩, hstop, hmem⟩ := exists_scan_behind h
  have hlength : byteLength passed = byteLength (before ++ taken) := by
    rw [← hsplits.stop_eq, ← hstop, hoffset]
    exact (Nat.zero_add _).symm
  have hrest : b.rest = rest := (Text.append_inj_of_byteLength hpassed.symm hlength).2
  obtain ⟨c, hprefers, hlt⟩ := hnext { b with groups := [] } hrest
  have hscan := scan_of_prefers rfl hprefers
    (Nat.lt_of_lt_of_eq hlt (congrArg List.length hrest.symm))
  rw [scan_ungrouped] at hscan
  exact ⟨_, hmem _ (hscan ▸ List.mem_cons_self), hstop⟩

/-- So do the values that are read from matches, if each has the span of its match. -/
theorem pairwise_filterMap_findAll {α : Type} {read : Match → Option (Found α)}
    (hread : ∀ m found, read m = Option.some found → found.span = m.span) (p : Pattern)
    (cs : List Char) : ((p.findAll cs).filterMap read).Pairwise fun a b =>
      a.span.start < b.span.start ∧ a.span.stop ≤ b.span.start := by
  refine ((pairwise_findAll p cs).and (disjoint_findAll p cs)).filterMap _ ?_
  intro m m' hlt found hfound found' hfound'
  rwa [hread m found hfound, hread m' found' hfound']

end Pattern

end InvoiceFields
