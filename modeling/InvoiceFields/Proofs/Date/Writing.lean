import InvoiceFields.Date
import InvoiceFields.Proofs.Pattern.Captures

/-!
# Dates as they are written

A date stands on a line in numbers or with the month in words. The two patterns of dates take
exactly these `Writing`s and keep their day, month and year, so every date that is located is what
the readers of numbers and months make of a writing in the text (`exists_writing_of_mem_locate`).
-/

namespace InvoiceFields.Date

open Pattern (Captures Recognizes Spells recognizes_one recognizes_times_one recognizes_word)
open Text (isBlank isDecimalDigit isWordChar)

variable {cs ds : List Char} {m : Pattern.Match} {found : Found Date}

/-! ### Parts of a date -/

/-- Digits of any script. -/
def IsDigits (ds : List Char) : Prop := ∀ d ∈ ds, isDecimalDigit d = true

/-- One or two digits. -/
def IsShort (ds : List Char) : Prop := (ds.length = 1 ∨ ds.length = 2) ∧ IsDigits ds

/-- Four digits. -/
def IsLongYear (ds : List Char) : Prop := ds.length = 4 ∧ IsDigits ds

/-- Four or two digits. -/
def IsYear (ds : List Char) : Prop := IsLongYear ds ∨ ds.length = 2 ∧ IsDigits ds

/-- The characters between the numbers of a date. -/
def isMark (c : Char) : Bool := "/-.".toList.contains c

/-- Blanks, at least one. -/
def IsGap (cs : List Char) : Prop := cs ≠ [] ∧ ∀ c ∈ cs, isBlank c = true

/-- The name of a month, in any forms of its letters. -/
def IsMonthName (cs : List Char) : Prop := ∃ name ∈ Pattern.monthNames, Spells name.toList cs

/-- What may stand in front of the year of a date with the month in words. -/
def IsLink (cs : List Char) : Prop :=
  cs = [] ∨ ∃ word gap, (Spells "de".toList word ∨ Spells "del".toList word) ∧ IsGap gap ∧
    cs = word ++ gap

theorem IsShort.ne_nil (h : IsShort ds) : ds ≠ [] := by
  rintro rfl
  exact h.1.elim nofun nofun

theorem IsYear.isDigits (h : IsYear ds) : IsDigits ds := h.elim And.right And.right

theorem IsYear.ne_nil (h : IsYear ds) : ds ≠ [] := by
  rintro rfl
  rcases h with ⟨h, -⟩ | ⟨h, -⟩ <;> exact nomatch h

/-! ### Writings -/

/-- A date in numbers. -/
@[ext]
structure Numeric where
  day : List Char
  first : Char
  month : List Char
  second : Char
  year : List Char
  isShort_day : IsShort day
  isMark_first : isMark first = true
  isShort_month : IsShort month
  isMark_second : isMark second = true
  isYear_year : IsYear year

/-- A date with the month in words. -/
@[ext]
structure Long where
  day : List Char
  gap₁ : List Char
  preposition : List Char
  gap₂ : List Char
  month : List Char
  gap₃ : List Char
  link : List Char
  year : List Char
  isShort_day : IsShort day
  isGap_gap₁ : IsGap gap₁
  spells_preposition : Spells "de".toList preposition
  isGap_gap₂ : IsGap gap₂
  isMonthName_month : IsMonthName month
  isGap_gap₃ : IsGap gap₃
  isLink_link : IsLink link
  isLongYear_year : IsLongYear year

/-- A date as it may stand on a line. -/
inductive Writing where
  | numeric (w : Numeric)
  | long (w : Long)

namespace Writing

def day : Writing → List Char
  | numeric w => w.day
  | long w => w.day

def month : Writing → List Char
  | numeric w => w.month
  | long w => w.month

def year : Writing → List Char
  | numeric w => w.year
  | long w => w.year

/-- The date as it stands on the line. -/
def text : Writing → List Char
  | numeric w => w.day ++ w.first :: (w.month ++ w.second :: w.year)
  | long w => w.day ++ (w.gap₁ ++ (w.preposition ++ (w.gap₂ ++ (w.month ++ (w.gap₃ ++
      (w.link ++ w.year))))))

/-- What the patterns of dates keep. -/
def kept (w : Writing) : List (Nat × List Char) := [(1, w.day), (2, w.month), (3, w.year)]

theorem isShort_day : ∀ w : Writing, IsShort w.day
  | numeric w => w.isShort_day
  | long w => w.isShort_day

theorem isYear_year : ∀ w : Writing, IsYear w.year
  | numeric w => w.isYear_year
  | long w => .inl w.isLongYear_year

/-- A writing begins with the digits of the day. -/
theorem exists_text_eq_day_append : ∀ w : Writing, ∃ rest, w.text = w.day ++ rest
  | numeric _ => ⟨_, rfl⟩
  | long _ => ⟨_, rfl⟩

/-- A writing ends with the digits of the year. -/
theorem exists_text_eq_append_year : ∀ w : Writing, ∃ front, w.text = front ++ w.year
  | numeric w => ⟨w.day ++ w.first :: (w.month ++ [w.second]), by simp [text, year]⟩
  | long w => ⟨w.day ++ (w.gap₁ ++ (w.preposition ++ (w.gap₂ ++ (w.month ++ (w.gap₃ ++ w.link))))),
      by simp only [text, year, List.append_assoc]⟩

end Writing

/-! ### The patterns -/

private theorem recognizes_oneOrTwoDigits : Pattern.oneOrTwoDigits.Recognizes IsShort := by
  have hdigit : Pattern.digit.Recognizes _ := recognizes_one
  refine (hdigit.seq (hdigit.seq Pattern.recognizes_empty).optional).congr fun cs => ?_
  constructor
  · rintro ⟨_, _, ⟨c, hc, rfl⟩, ⟨_, _, ⟨d, hd, rfl⟩, rfl, rfl⟩ | rfl, rfl⟩
    · exact ⟨.inr rfl, by simp [IsDigits, hc, hd]⟩
    · exact ⟨.inl rfl, by simp [IsDigits, hc]⟩
  · rintro ⟨hlength | hlength, hcs⟩
    · obtain ⟨c, rfl⟩ := List.length_eq_one_iff.mp hlength
      exact ⟨[c], [], ⟨c, hcs c List.mem_cons_self, rfl⟩, .inr rfl, rfl⟩
    · obtain ⟨c, d, rfl⟩ := List.length_eq_two.mp hlength
      exact ⟨[c], [d], ⟨c, hcs c (by simp), rfl⟩,
        .inl ⟨[d], [], ⟨d, hcs d (by simp), rfl⟩, rfl, rfl⟩, rfl⟩

private theorem recognizes_longYear : (Pattern.times Pattern.digit 4).Recognizes IsLongYear :=
  recognizes_times_one

private theorem recognizes_gap : (Pattern.some Pattern.blank).Recognizes IsGap :=
  Pattern.recognizes_some_one

private theorem recognizes_link : (Pattern.optional (.alt
    (.seq (Pattern.word "de") (Pattern.some Pattern.blank))
    (.seq (Pattern.word "del") (Pattern.some Pattern.blank)))).Recognizes IsLink := by
  have hde := (recognizes_word "de").seq recognizes_gap
  refine ((hde.alt ((recognizes_word "del").seq recognizes_gap)).optional).congr fun cs => ?_
  constructor
  · rintro ((⟨word, gap, hword, hgap, rfl⟩ | ⟨word, gap, hword, hgap, rfl⟩) | rfl)
    · exact .inr ⟨word, gap, .inl hword, hgap, rfl⟩
    · exact .inr ⟨word, gap, .inr hword, hgap, rfl⟩
    · exact .inl rfl
  · rintro (rfl | ⟨word, gap, hword | hword, hgap, rfl⟩)
    · exact .inr rfl
    · exact .inl (.inl ⟨word, gap, hword, hgap, rfl⟩)
    · exact .inl (.inr ⟨word, gap, hword, hgap, rfl⟩)

/-- What the pattern of dates in numbers takes and keeps. -/
def KeptNumeric (cs : List Char) (kept : List (Nat × List Char)) : Prop :=
  ∃ w : Numeric, cs = (Writing.numeric w).text ∧ kept = (Writing.numeric w).kept

/-- What the pattern of dates with the month in words takes and keeps. -/
def KeptLong (cs : List Char) (kept : List (Nat × List Char)) : Prop :=
  ∃ w : Long, cs = (Writing.long w).text ∧ kept = (Writing.long w).kept

theorem captures_numeric : (Pattern.sequence [.group 1 Pattern.oneOrTwoDigits, Pattern.anyOf "/-.",
    .group 2 Pattern.oneOrTwoDigits, Pattern.anyOf "/-.",
    .group 3 (.alt (.times Pattern.digit 4) (.times Pattern.digit 2))]).Captures KeptNumeric := by
  have hmark : (Pattern.anyOf "/-.").Recognizes _ := recognizes_one
  have hshort : (Pattern.times Pattern.digit 2).Recognizes _ := recognizes_times_one
  have hyear := ((recognizes_longYear.alt hshort).captures_group 3).sequence_singleton
  refine (recognizes_oneOrTwoDigits.sequence_captures_group 1 (hmark.sequence_captures
    (recognizes_oneOrTwoDigits.sequence_captures_group 2
      (hmark.sequence_captures hyear)))).congr fun cs kept => ?_
  constructor
  · rintro ⟨day, _, _, hday, ⟨_, _, ⟨first, hfirst, rfl⟩, ⟨month, _, _, hmonth,
      ⟨_, year, ⟨second, hsecond, rfl⟩, ⟨hyear, rfl⟩, rfl⟩, rfl, rfl⟩, rfl⟩, rfl, rfl⟩
    exact ⟨⟨day, first, month, second, year, hday, hfirst, hmonth, hsecond, hyear⟩, rfl, rfl⟩
  · rintro ⟨w, rfl, rfl⟩
    exact ⟨w.day, _, _, w.isShort_day, ⟨_, _, ⟨w.first, w.isMark_first, rfl⟩,
      ⟨w.month, _, _, w.isShort_month, ⟨_, w.year, ⟨w.second, w.isMark_second, rfl⟩,
        ⟨w.isYear_year, rfl⟩, rfl⟩, rfl, rfl⟩, rfl⟩, rfl, rfl⟩

theorem captures_long : (Pattern.sequence [.group 1 Pattern.oneOrTwoDigits,
    Pattern.some Pattern.blank, Pattern.word "de", Pattern.some Pattern.blank,
    .group 2 (Pattern.choice (Pattern.monthNames.map Pattern.word)), Pattern.some Pattern.blank,
    .optional (.alt (.seq (Pattern.word "de") (Pattern.some Pattern.blank))
      (.seq (Pattern.word "del") (Pattern.some Pattern.blank))),
    .group 3 (.times Pattern.digit 4)]).Captures KeptLong := by
  have hyear := (recognizes_longYear.captures_group 3).sequence_singleton
  refine (recognizes_oneOrTwoDigits.sequence_captures_group 1 (recognizes_gap.sequence_captures
    ((recognizes_word "de").sequence_captures (recognizes_gap.sequence_captures
      ((Pattern.recognizes_words Pattern.monthNames).sequence_captures_group 2
        (recognizes_gap.sequence_captures (recognizes_link.sequence_captures
          hyear))))))).congr fun cs kept => ?_
  constructor
  · rintro ⟨day, _, _, hday, ⟨gap₁, _, hgap₁, ⟨preposition, _, hpreposition, ⟨gap₂, _, hgap₂,
      ⟨month, _, _, hmonth, ⟨gap₃, _, hgap₃, ⟨link, year, hlink, ⟨hyear, rfl⟩, rfl⟩, rfl⟩,
        rfl, rfl⟩, rfl⟩, rfl⟩, rfl⟩, rfl, rfl⟩
    exact ⟨⟨day, gap₁, preposition, gap₂, month, gap₃, link, year, hday, hgap₁, hpreposition, hgap₂,
      hmonth, hgap₃, hlink, hyear⟩, rfl, rfl⟩
  · rintro ⟨w, rfl, rfl⟩
    exact ⟨w.day, _, _, w.isShort_day, ⟨w.gap₁, _, w.isGap_gap₁, ⟨w.preposition, _,
      w.spells_preposition, ⟨w.gap₂, _, w.isGap_gap₂, ⟨w.month, _, _, w.isMonthName_month,
        ⟨w.gap₃, _, w.isGap_gap₃, ⟨w.link, w.year, w.isLink_link, ⟨w.isLongYear_year, rfl⟩, rfl⟩,
          rfl⟩, rfl, rfl⟩, rfl⟩, rfl⟩, rfl⟩, rfl, rfl⟩

/-- A writing begins with a digit. -/
theorem Writing.exists_first (w : Writing) :
    ∃ d ds, w.text = d :: ds ∧ isDecimalDigit d = true := by
  obtain ⟨rest, hrest⟩ := w.exists_text_eq_day_append
  obtain ⟨d, ds, hday⟩ := List.exists_cons_of_ne_nil w.isShort_day.ne_nil
  exact ⟨d, ds ++ rest, by rw [hrest, hday]; rfl, w.isShort_day.2 d (hday ▸ List.mem_cons_self)⟩

/-- A writing ends with a digit. -/
theorem Writing.exists_last (w : Writing) :
    ∃ ds d, w.text = ds ++ [d] ∧ isDecimalDigit d = true := by
  obtain ⟨front, hfront⟩ := w.exists_text_eq_append_year
  have hne := w.isYear_year.ne_nil
  refine ⟨front ++ w.year.dropLast, w.year.getLast hne, ?_,
    w.isYear_year.isDigits _ (List.getLast_mem hne)⟩
  rw [hfront, List.append_assoc, List.dropLast_append_getLast hne]

/-- A writing begins and ends with a word character. -/
theorem Writing.worded (w : Writing) : (∃ c ds, w.text = c :: ds ∧ isWordChar c = true) ∧
    ∃ ds c, w.text = ds ++ [c] ∧ isWordChar c = true := by
  obtain ⟨c, ds, hfirst, hc⟩ := w.exists_first
  obtain ⟨es, d, hlast, hd⟩ := w.exists_last
  exact ⟨⟨c, ds, hfirst, Text.isWordChar_of_isDecimalDigit hc⟩,
    es, d, hlast, Text.isWordChar_of_isDecimalDigit hd⟩

theorem KeptNumeric.exists_writing {kept : List (Nat × List Char)} (h : KeptNumeric cs kept) :
    ∃ w : Writing, cs = w.text := by
  obtain ⟨w, htext, -⟩ := h
  exact ⟨.numeric w, htext⟩

theorem KeptLong.exists_writing {kept : List (Nat × List Char)} (h : KeptLong cs kept) :
    ∃ w : Writing, cs = w.text := by
  obtain ⟨w, htext, -⟩ := h
  exact ⟨.long w, htext⟩

/-- What a pattern of dates takes begins and ends with a word character. -/
theorem worded_of_exists_writing {R : List Char → List (Nat × List Char) → Prop}
    (hR : ∀ cs kept, R cs kept → ∃ w : Writing, cs = w.text) : Pattern.Worded R := by
  intro cs kept h
  obtain ⟨w, rfl⟩ := hR cs kept h
  exact w.worded

theorem worded_numeric : Pattern.Worded KeptNumeric :=
  worded_of_exists_writing fun _ _ => KeptNumeric.exists_writing

theorem worded_long : Pattern.Worded KeptLong :=
  worded_of_exists_writing fun _ _ => KeptLong.exists_writing

/-! ### Dates that are located -/

/-- What the readers of numbers and months make of a writing. -/
def Writing.date? : Writing → Option Date
  | numeric w => ofParts? (yearOf (.ofList w.year)) (numberOf (.ofList w.month))
      (numberOf (.ofList w.day))
  | long w => ofParts? (numberOf (.ofList w.year)) (monthOf (.ofList w.month))
      (numberOf (.ofList w.day))

/-- The parts that a match of a writing keeps. -/
theorem Writing.groupText_eq {w : Writing} (h : m.Holds w.text w.kept) :
    m.groupText 1 = .ofList w.day ∧ m.groupText 2 = .ofList w.month ∧
      m.groupText 3 = .ofList w.year :=
  ⟨h.groupText_eq 1, h.groupText_eq 2, h.groupText_eq 3⟩

/-- What is located by a match in numbers. -/
theorem readNumeric_eq {w : Numeric}
    (h : m.Holds (Writing.numeric w).text (Writing.numeric w).kept) :
    ofParts? (yearOf (m.groupText 3)) (numberOf (m.groupText 2)) (numberOf (m.groupText 1)) =
      (Writing.numeric w).date? := by
  obtain ⟨hday, hmonth, hyear⟩ := Writing.groupText_eq h
  rw [hday, hmonth, hyear]
  rfl

/-- What is located by a match with the month in words. -/
theorem readLong_eq {w : Long} (h : m.Holds (Writing.long w).text (Writing.long w).kept) :
    ofParts? (numberOf (m.groupText 3)) (monthOf (m.groupText 2)) (numberOf (m.groupText 1)) =
      (Writing.long w).date? := by
  obtain ⟨hday, hmonth, hyear⟩ := Writing.groupText_eq h
  rw [hday, hmonth, hyear]
  rfl

/-- A date that is located is what a writing in the text is read as. -/
theorem exists_writing_of_mem_locate {text : String} (h : found ∈ locate text) :
    ∃ (w : Writing) (front back : List Char), text.toList = front ++ (w.text ++ back) ∧
      found.span.text = .ofList w.text ∧ w.date? = some found.value := by
  rw [locate, List.mem_mergeSort, List.mem_append] at h
  rcases h with h | h
  · obtain ⟨m, hm, hfound⟩ := List.mem_filterMap.mp h
    obtain ⟨front, _, back, _, htext, ⟨w, rfl, rfl⟩, hholds, -, -⟩ :=
      Pattern.exists_of_mem_findAll_bounded captures_numeric worded_numeric hm
    rw [readNumeric_eq hholds] at hfound
    obtain ⟨date, hdate, rfl⟩ := Option.map_eq_some_iff.mp hfound
    exact ⟨.numeric w, front, back, htext, hholds.text_eq, hdate⟩
  · obtain ⟨m, hm, hfound⟩ := List.mem_filterMap.mp h
    obtain ⟨front, _, back, _, htext, ⟨w, rfl, rfl⟩, hholds, -, -⟩ :=
      Pattern.exists_of_mem_findAll_bounded captures_long worded_long hm
    rw [readLong_eq hholds] at hfound
    obtain ⟨date, hdate, rfl⟩ := Option.map_eq_some_iff.mp hfound
    exact ⟨.long w, front, back, htext, hholds.text_eq, hdate⟩

end InvoiceFields.Date
