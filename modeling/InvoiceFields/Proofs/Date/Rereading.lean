import InvoiceFields.Proofs.Date.Reading
import InvoiceFields.Proofs.Text.Trimming

/-!
# Writings that are read back

Where no digits and no word characters stand around a writing, the text can be read in one way only:
each part of the writing is as long as it can be, and there are no marks in a date in words and no
blanks in one in numbers. So nothing but the writing is located (`locate_eq`).
-/

namespace InvoiceFields.Date

open Pattern (Spells)
open Text (isBlank isDecimalDigit isWordChar)

variable {c : Char} {cs front back rest : List Char}

/-! ### Characters -/

theorem isDecimalDigit_of_isMark (h : isMark c = true) :
    isDecimalDigit c = false ∧ isBlank c = false := by
  have hmarks : ∀ c ∈ "/-.".toList, isDecimalDigit c = false ∧ isBlank c = false := by decide
  exact hmarks c (List.contains_iff_mem.mp h)

theorem isDecimalDigit_of_isBlank (h : isBlank c = true) : isDecimalDigit c = false := by
  refine Bool.eq_false_iff.mpr fun hdigit => ?_
  rw [Text.isBlank_of_isDecimalDigit hdigit] at h
  exact Bool.false_ne_true h

/-- A word of letters: no digits, blanks or marks. -/
def IsWord (cs : List Char) : Prop :=
  cs ≠ [] ∧ ∀ c ∈ cs, isDecimalDigit c = false ∧ isBlank c = false ∧ isMark c = false

/-- What spells a word of small letters is a word. -/
theorem isWord_of_spells {s : String} (hs : s.toList ≠ [])
    (hletters : ∀ letter ∈ s.toList, letter ∈ "abcdefghijlmnoprstuvyz".toList)
    (h : Spells s.toList cs) : IsWord cs := by
  have hforms : ∀ letter ∈ "abcdefghijlmnoprstuvyz".toList,
      ∀ c ∈ letter :: Pattern.otherForms letter,
        isDecimalDigit c = false ∧ isBlank c = false ∧ isMark c = false := by decide +kernel
  constructor
  · rintro rfl
    exact hs (List.forall₂_nil_right_iff.mp h)
  · intro c hc
    obtain ⟨letter, hletter, hcase⟩ := h.exists_letter c hc
    rw [Pattern.isCaseOf, Bool.or_eq_true, beq_iff_eq, List.contains_iff_mem] at hcase
    exact hforms letter (hletters letter hletter) c (List.mem_cons.mpr hcase)

theorem isWord_preposition (h : Spells "de".toList cs ∨ Spells "del".toList cs) : IsWord cs :=
  h.elim (isWord_of_spells (by decide) (by decide)) (isWord_of_spells (by decide) (by decide))

theorem IsMonthName.isWord (h : IsMonthName cs) : IsWord cs := by
  obtain ⟨name, hname, hspells⟩ := h
  have hnames : ∀ name ∈ Pattern.monthNames, name.toList ≠ [] ∧
      ∀ letter ∈ name.toList, letter ∈ "abcdefghijlmnoprstuvyz".toList := by decide
  exact isWord_of_spells (hnames name hname).1 (hnames name hname).2 hspells

/-! ### One reading only -/

/-- Where no word character stands, no digit does. -/
theorem isDecimalDigit_of_head? (h : rest.head?.any isWordChar = false) :
    ∀ c, rest.head? = some c → isDecimalDigit c = false := by
  intro c hc
  refine Bool.eq_false_iff.mpr fun hdigit => ?_
  rw [hc, Option.any_some, Text.isWordChar_of_isDecimalDigit hdigit] at h
  exact Bool.false_ne_true h.symm

/-- A date in numbers is read in one way: its numbers go on as far as there are digits. -/
theorem Numeric.unique {w w' : Numeric} (hback : back.head?.any isWordChar = false)
    (hrest : rest.head?.any isWordChar = false)
    (h : (Writing.numeric w').text ++ rest = (Writing.numeric w).text ++ back) : w' = w := by
  have hmark : ∀ {c : Char} {cs : List Char}, isMark c = true →
      ∀ d, (c :: cs).head? = some d → isDecimalDigit d = false := by
    intro c cs hc d hd
    obtain rfl := Option.some.inj hd
    exact (isDecimalDigit_of_isMark hc).1
  simp only [Writing.text, List.append_assoc, List.cons_append] at h
  obtain ⟨hday, h⟩ := Text.run_unique w'.isShort_day.2 w.isShort_day.2 (hmark w'.isMark_first)
    (hmark w.isMark_first) h
  obtain ⟨hfirst, h⟩ := List.cons.inj h
  obtain ⟨hmonth, h⟩ := Text.run_unique w'.isShort_month.2 w.isShort_month.2
    (hmark w'.isMark_second) (hmark w.isMark_second) h
  obtain ⟨hsecond, h⟩ := List.cons.inj h
  obtain ⟨hyear, -⟩ := Text.run_unique w'.isYear_year.isDigits w.isYear_year.isDigits
    (isDecimalDigit_of_head? hrest) (isDecimalDigit_of_head? hback) h
  exact Numeric.ext hday hfirst hmonth hsecond hyear

theorem KeptNumeric.unique {w : Numeric} {kept : List (Nat × List Char)}
    (hback : back.head?.any isWordChar = false) (hrest : rest.head?.any isWordChar = false)
    (hkept : KeptNumeric cs kept) (h : (Writing.numeric w).text ++ back = cs ++ rest) :
    cs = (Writing.numeric w).text ∧ kept = (Writing.numeric w).kept := by
  obtain ⟨w', rfl, rfl⟩ := hkept
  rw [Numeric.unique hback hrest h.symm]
  exact ⟨rfl, rfl⟩

/-- Blanks end in front of a word, and a word ends in front of blanks. -/
theorem gap_word_unique {gap gap' word word' : List Char} (hgap : IsGap gap) (hgap' : IsGap gap')
    (hword : IsWord word) (hword' : IsWord word') {a b : List Char}
    (h : gap ++ (word ++ a) = gap' ++ (word' ++ b)) : gap = gap' ∧ word ++ a = word' ++ b :=
  Text.run_unique hgap.2 hgap'.2
    (Text.not_of_head?_append hword.1 fun c hc => (hword.2 c hc).2.1)
    (Text.not_of_head?_append hword'.1 fun c hc => (hword'.2 c hc).2.1) h

theorem word_gap_unique {gap gap' word word' : List Char} (hgap : IsGap gap) (hgap' : IsGap gap')
    (hword : IsWord word) (hword' : IsWord word') {a b : List Char}
    (h : word ++ (gap ++ a) = word' ++ (gap' ++ b)) : word = word' ∧ gap ++ a = gap' ++ b := by
  have hblank : ∀ {gap a : List Char}, IsGap gap →
      ∀ c, (gap ++ a).head? = some c → (!isBlank c) = false := fun hgap =>
    Text.not_of_head?_append hgap.1 fun c hc => by rw [hgap.2 c hc]; rfl
  have hletters : ∀ {word : List Char}, IsWord word → ∀ c ∈ word, (!isBlank c) = true :=
    fun hword c hc => by rw [(hword.2 c hc).2.1]; rfl
  exact Text.run_unique (hletters hword) (hletters hword') (hblank hgap) (hblank hgap') h

/-- A year begins with no blank. -/
theorem IsLongYear.head?_append {year a : List Char} (h : IsLongYear year) :
    ∀ c, (year ++ a).head? = some c → isBlank c = false :=
  Text.not_of_head?_append (IsYear.ne_nil (.inl h)) fun c hc =>
    Text.isBlank_of_isDecimalDigit (h.2 c hc)

/-- A year does not begin like a word. -/
theorem IsLongYear.append_ne {year word a b : List Char} (h : IsLongYear year)
    (hword : IsWord word) : year ++ a ≠ word ++ b := by
  intro heq
  obtain ⟨c, word, rfl⟩ := List.exists_cons_of_ne_nil hword.1
  obtain ⟨d, year, rfl⟩ := List.exists_cons_of_ne_nil (IsYear.ne_nil (.inl h))
  obtain ⟨rfl, -⟩ := List.cons.inj heq
  have hdigit := h.2 d List.mem_cons_self
  rw [(hword.2 d List.mem_cons_self).1] at hdigit
  exact Bool.false_ne_true hdigit

/-- What stands in front of a year in words begins with no blank. -/
theorem IsLink.head?_append {link year a : List Char} (hlink : IsLink link)
    (hyear : IsLongYear year) : ∀ c, (link ++ (year ++ a)).head? = some c → isBlank c = false := by
  rcases hlink with rfl | ⟨word, gap, hword, hgap, rfl⟩
  · exact hyear.head?_append
  · rw [List.append_assoc]
    exact Text.not_of_head?_append (isWord_preposition hword).1 fun c hc =>
      ((isWord_preposition hword).2 c hc).2.1

/-- What stands in front of a year in words is read in one way. -/
theorem link_unique {link link' year year' : List Char} (hlink : IsLink link)
    (hlink' : IsLink link') (hyear : IsLongYear year) (hyear' : IsLongYear year')
    {a b : List Char} (h : link ++ (year ++ a) = link' ++ (year' ++ b)) :
    link = link' ∧ year ++ a = year' ++ b := by
  rcases hlink with rfl | ⟨word, gap, hword, hgap, rfl⟩
  · rcases hlink' with rfl | ⟨word', gap', hword', hgap', rfl⟩
    · exact ⟨rfl, h⟩
    · rw [List.nil_append, List.append_assoc] at h
      exact absurd h (hyear.append_ne (isWord_preposition hword'))
  · rcases hlink' with rfl | ⟨word', gap', hword', hgap', rfl⟩
    · rw [List.nil_append, List.append_assoc] at h
      exact absurd h.symm (hyear'.append_ne (isWord_preposition hword))
    · rw [List.append_assoc, List.append_assoc] at h
      obtain ⟨rfl, hgaps⟩ := word_gap_unique hgap hgap' (isWord_preposition hword)
        (isWord_preposition hword') h
      obtain ⟨rfl, hyears⟩ := Text.run_unique hgap.2 hgap'.2 hyear.head?_append
        hyear'.head?_append hgaps
      exact ⟨rfl, hyears⟩

/-- A date in words is read in one way: its words and blanks go on as far as they can. -/
theorem Long.unique {w w' : Long} (hback : back.head?.any isWordChar = false)
    (hrest : rest.head?.any isWordChar = false)
    (h : (Writing.long w').text ++ rest = (Writing.long w).text ++ back) : w' = w := by
  have hblank : ∀ {gap a : List Char}, IsGap gap →
      ∀ c, (gap ++ a).head? = some c → isDecimalDigit c = false := fun hgap =>
    Text.not_of_head?_append hgap.1 fun c hc => isDecimalDigit_of_isBlank (hgap.2 c hc)
  have hde : ∀ w : Long, IsWord w.preposition := fun w =>
    isWord_preposition (.inl w.spells_preposition)
  simp only [Writing.text, List.append_assoc] at h
  obtain ⟨hday, h⟩ := Text.run_unique w'.isShort_day.2 w.isShort_day.2 (hblank w'.isGap_gap₁)
    (hblank w.isGap_gap₁) h
  obtain ⟨hgap₁, h⟩ := gap_word_unique w'.isGap_gap₁ w.isGap_gap₁ (hde w') (hde w) h
  obtain ⟨hpreposition, h⟩ := word_gap_unique w'.isGap_gap₂ w.isGap_gap₂ (hde w') (hde w) h
  obtain ⟨hgap₂, h⟩ := gap_word_unique w'.isGap_gap₂ w.isGap_gap₂ w'.isMonthName_month.isWord
    w.isMonthName_month.isWord h
  obtain ⟨hmonth, h⟩ := word_gap_unique w'.isGap_gap₃ w.isGap_gap₃ w'.isMonthName_month.isWord
    w.isMonthName_month.isWord h
  obtain ⟨hgap₃, h⟩ := Text.run_unique w'.isGap_gap₃.2 w.isGap_gap₃.2
    (w'.isLink_link.head?_append w'.isLongYear_year)
    (w.isLink_link.head?_append w.isLongYear_year) h
  obtain ⟨hlink, h⟩ := link_unique w'.isLink_link w.isLink_link w'.isLongYear_year
    w.isLongYear_year h
  obtain ⟨hyear, -⟩ := Text.run_unique w'.isLongYear_year.2 w.isLongYear_year.2
    (isDecimalDigit_of_head? hrest) (isDecimalDigit_of_head? hback) h
  exact Long.ext hday hgap₁ hpreposition hgap₂ hmonth hgap₃ hlink hyear

theorem KeptLong.unique {w : Long} {kept : List (Nat × List Char)}
    (hback : back.head?.any isWordChar = false) (hrest : rest.head?.any isWordChar = false)
    (hkept : KeptLong cs kept) (h : (Writing.long w).text ++ back = cs ++ rest) :
    cs = (Writing.long w).text ∧ kept = (Writing.long w).kept := by
  obtain ⟨w', rfl, rfl⟩ := hkept
  rw [Long.unique hback hrest h.symm]
  exact ⟨rfl, rfl⟩

/-! ### One form only -/

/-- There are no blanks in a date in numbers. -/
theorem Numeric.isBlank_of_mem (w : Numeric) :
    ∀ c ∈ (Writing.numeric w).text, isBlank c = false := by
  have hdigits : ∀ {ds : List Char}, IsDigits ds → ∀ c ∈ ds, isBlank c = false :=
    fun hds c hc => Text.isBlank_of_isDecimalDigit (hds c hc)
  rw [Writing.text, List.forall_mem_append, List.forall_mem_cons, List.forall_mem_append,
    List.forall_mem_cons]
  exact ⟨hdigits w.isShort_day.2, (isDecimalDigit_of_isMark w.isMark_first).2,
    hdigits w.isShort_month.2, (isDecimalDigit_of_isMark w.isMark_second).2,
    hdigits w.isYear_year.isDigits⟩

/-- There are no marks in a date in words. -/
theorem Long.isMark_of_mem (w : Long) : ∀ c ∈ (Writing.long w).text, isMark c = false := by
  have hdigits : ∀ {ds : List Char}, IsDigits ds → ∀ c ∈ ds, isMark c = false :=
    fun hds c hc => Bool.eq_false_iff.mpr fun hmark =>
      Bool.false_ne_true ((isDecimalDigit_of_isMark hmark).1.symm.trans (hds c hc))
  have hgap : ∀ {gap : List Char}, IsGap gap → ∀ c ∈ gap, isMark c = false :=
    fun hgap c hc => Bool.eq_false_iff.mpr fun hmark =>
      Bool.false_ne_true ((isDecimalDigit_of_isMark hmark).2.symm.trans (hgap.2 c hc))
  have hword : ∀ {word : List Char}, IsWord word → ∀ c ∈ word, isMark c = false :=
    fun hword c hc => (hword.2 c hc).2.2
  have hlink : ∀ c ∈ w.link, isMark c = false := by
    rcases w.isLink_link with hnil | ⟨word, gap, hde, hblanks, heq⟩
    · rw [hnil]
      exact List.forall_mem_nil _
    · rw [heq, List.forall_mem_append]
      exact ⟨hword (isWord_preposition hde), hgap hblanks⟩
  simp only [Writing.text, List.forall_mem_append]
  exact ⟨hdigits w.isShort_day.2, hgap w.isGap_gap₁,
    hword (isWord_preposition (.inl w.spells_preposition)), hgap w.isGap_gap₂,
    hword w.isMonthName_month.isWord, hgap w.isGap_gap₃, hlink, hdigits w.isLongYear_year.2⟩

/-- A writing lies within another one if only that one has digits. -/
theorem Writing.subset_of_append_eq {w w' : Writing} {front' back' : List Char}
    (hfront : ∀ c ∈ front, isDecimalDigit c = false) (hback : ∀ c ∈ back, isDecimalDigit c = false)
    (h : front ++ (w.text ++ back) = front' ++ (w'.text ++ back')) : ∀ c ∈ w'.text, c ∈ w.text :=
  Text.subset_of_append_eq hfront hback w'.exists_first w'.exists_last h

theorem Numeric.findAll_dateSpanishLong (w : Numeric)
    (hfront : ∀ c ∈ front, isDecimalDigit c = false)
    (hback : ∀ c ∈ back, isDecimalDigit c = false) :
    Pattern.dateSpanishLong.findAll (front ++ ((Writing.numeric w).text ++ back)) = [] := by
  refine List.eq_nil_iff_forall_not_mem.mpr fun m hm => ?_
  obtain ⟨front', _, back', _, htext, ⟨w', rfl, -⟩, -, -, -⟩ :=
    Pattern.exists_of_mem_findAll_bounded captures_long worded_long hm
  have hsubset := Writing.subset_of_append_eq hfront hback htext
  obtain ⟨c, hc⟩ := List.exists_mem_of_ne_nil _ w'.isGap_gap₁.1
  have hmem : c ∈ (Writing.long w').text := by simp [Writing.text, hc]
  have hblank := w.isBlank_of_mem c (hsubset c hmem)
  rw [w'.isGap_gap₁.2 c hc] at hblank
  exact Bool.false_ne_true hblank.symm

theorem Long.findAll_dateToken (w : Long) (hfront : ∀ c ∈ front, isDecimalDigit c = false)
    (hback : ∀ c ∈ back, isDecimalDigit c = false) :
    Pattern.dateToken.findAll (front ++ ((Writing.long w).text ++ back)) = [] := by
  refine List.eq_nil_iff_forall_not_mem.mpr fun m hm => ?_
  obtain ⟨front', _, back', _, htext, ⟨w', rfl, -⟩, -, -, -⟩ :=
    Pattern.exists_of_mem_findAll_bounded captures_numeric worded_numeric hm
  have hsubset := Writing.subset_of_append_eq hfront hback htext
  have hmem : w'.first ∈ (Writing.numeric w').text := by simp [Writing.text]
  have hmark := w.isMark_of_mem w'.first (hsubset _ hmem)
  rw [w'.isMark_first] at hmark
  exact Bool.false_ne_true hmark.symm

/-! ### What is located -/

section Surroundings

variable (hfront : ∀ c ∈ front, isDecimalDigit c = false)
  (hback : ∀ c ∈ back, isDecimalDigit c = false)
  (hfront_free : front.getLast?.any isWordChar = false)
  (hback_free : back.head?.any isWordChar = false)

include hfront hback hfront_free hback_free

/-- The one match of a pattern of dates. -/
theorem findAll_eq_singleton {ps : List Pattern} {R : List Char → List (Nat × List Char) → Prop}
    {kept : List (Nat × List Char)} (hp : (Pattern.sequence ps).Captures R)
    (hR : ∀ cs kept, R cs kept → ∃ w : Writing, cs = w.text) (h : R cs kept)
    (hunique : ∀ cs' kept' rest, R cs' kept' → cs ++ back = cs' ++ rest →
      rest.head?.any isWordChar = false → cs' = cs ∧ kept' = kept) :
    ∃ m : Pattern.Match, (Pattern.bounded ps).findAll (front ++ (cs ++ back)) = [m] ∧
      m.Holds cs kept := by
  have hworded := worded_of_exists_writing hR
  have hfirst : ∀ cs kept, R cs kept → ∃ d ds, cs = d :: ds ∧ isDecimalDigit d = true := by
    intro cs kept h
    obtain ⟨w, rfl⟩ := hR cs kept h
    exact w.exists_first
  exact Pattern.findAll_bounded_eq_singleton hp hworded
    (fun c hc _ hrest => Pattern.run_bounded_eq_nil hp hworded hfirst (hfront c hc) hrest)
    (fun c hc _ hrest => Pattern.run_bounded_eq_nil hp hworded hfirst (hback c hc) hrest)
    hfront_free hback_free h hunique

theorem locateNumeric_eq (w : Numeric) : ∃ span : Span,
    span.text = .ofList (Writing.numeric w).text ∧
      locateNumeric (front ++ ((Writing.numeric w).text ++ back)) =
        ((Writing.numeric w).date?.map (⟨·, span⟩)).toList := by
  obtain ⟨m, hm, hholds⟩ := findAll_eq_singleton hfront hback hfront_free hback_free
    captures_numeric (fun _ _ => KeptNumeric.exists_writing) ⟨w, rfl, rfl⟩
    fun _ _ _ hkept h hrest => hkept.unique hback_free hrest h
  have hfind : Pattern.dateToken.findAll (front ++ ((Writing.numeric w).text ++ back)) = [m] := hm
  refine ⟨m.span, hholds.text_eq, ?_⟩
  rw [locateNumeric, hfind, List.filterMap_cons, List.filterMap_nil, readNumeric_eq hholds]
  cases (Writing.numeric w).date? <;> rfl

theorem locateLong_eq (w : Long) : ∃ span : Span, span.text = .ofList (Writing.long w).text ∧
    locateLong (front ++ ((Writing.long w).text ++ back)) =
      ((Writing.long w).date?.map (⟨·, span⟩)).toList := by
  obtain ⟨m, hm, hholds⟩ := findAll_eq_singleton hfront hback hfront_free hback_free
    captures_long (fun _ _ => KeptLong.exists_writing) ⟨w, rfl, rfl⟩
    fun _ _ _ hkept h hrest => hkept.unique hback_free hrest h
  have hfind : Pattern.dateSpanishLong.findAll (front ++ ((Writing.long w).text ++ back)) = [m] :=
    hm
  refine ⟨m.span, hholds.text_eq, ?_⟩
  rw [locateLong, hfind, List.filterMap_cons, List.filterMap_nil, readLong_eq hholds]
  cases (Writing.long w).date? <;> rfl

/-- Where no digits and no word characters stand around a writing, what it is read as is located,
and nothing else. -/
theorem locate_eq (w : Writing) : ∃ span : Span, span.text = .ofList w.text ∧
    locate (.ofList (front ++ (w.text ++ back))) = (w.date?.map (⟨·, span⟩)).toList := by
  have hsort : ∀ date? : Option (Found Date), date?.toList.mergeSort
      (fun a b => decide (a.span.start ≤ b.span.start)) = date?.toList := by
    intro date?
    cases date? with
    | none => exact List.mergeSort_nil
    | some => exact List.mergeSort_singleton _
  rw [locate, String.toList_ofList]
  cases w with
  | numeric w =>
    obtain ⟨span, hspan, hlocate⟩ := locateNumeric_eq hfront hback hfront_free hback_free w
    refine ⟨span, hspan, ?_⟩
    rw [hlocate, locateLong, w.findAll_dateSpanishLong hfront hback, List.filterMap_nil,
      List.append_nil, hsort]
  | long w =>
    obtain ⟨span, hspan, hlocate⟩ := locateLong_eq hfront hback hfront_free hback_free w
    refine ⟨span, hspan, ?_⟩
    rw [hlocate, locateNumeric, w.findAll_dateToken hfront hback, List.filterMap_nil,
      List.nil_append, hsort]

end Surroundings

end InvoiceFields.Date
