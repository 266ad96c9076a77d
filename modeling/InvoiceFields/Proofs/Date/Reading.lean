import InvoiceFields.Proofs.Date.Writing
import InvoiceFields.Proofs.Text.Blanks
import InvoiceFields.Proofs.Text.Bytes

/-!
# What a date is read as

The patterns of dates take digits of every script and forms of letters that are no ASCII letters,
while the readers of numbers and months know ASCII only and answer zero for anything else. A day or
a month of zero is refused by the calendar, so both are always reported as they are written; a year
of zero is not, so a year in other digits is reported as zero (`reads_as_written`).
-/

namespace InvoiceFields

/-! ### Digits of every script -/

/-- The value of a decimal digit of any script. Each range of such digits begins with a zero. -/
def Text.decimalValue (c : Char) : Nat :=
  ((decimalDigitRanges.find? fun r => decide (r.1 ≤ c.toNat) && decide (c.toNat ≤ r.2)).map
    fun r => (c.toNat - r.1) % 10).getD 0

/-- The number that digits of any script stand for. -/
def Text.decimalNumber (ds : List Char) : Nat := ds.foldl (fun n d => n * 10 + decimalValue d) 0

theorem Text.decimalValue_of_isAsciiDigit {c : Char} (h : isAsciiDigit c = true) :
    decimalValue c = digitValue c := by
  obtain ⟨hlow, hhigh⟩ := isAsciiDigit_iff.mp h
  have hfirst : (decide (0x30 ≤ c.toNat) && decide (c.toNat ≤ 0x39)) = true := by
    rw [decide_eq_true hlow, decide_eq_true hhigh]
    rfl
  have hfind : (decimalDigitRanges.find? fun r =>
      decide (r.1 ≤ c.toNat) && decide (c.toNat ≤ r.2)) = some (0x30, 0x39) :=
    List.find?_cons_of_pos hfirst
  have hvalue : digitValue c = c.toNat - 48 := rfl
  rw [decimalValue, hfind, hvalue, Option.map_some, Option.getD_some]
  omega

theorem Text.decimalNumber_eq {ds : List Char} (h : ∀ d ∈ ds, isAsciiDigit d = true) :
    decimalNumber ds = digitsValue ds :=
  List.foldl_ext _ _ 0 fun n d hd => by rw [decimalValue_of_isAsciiDigit (h d hd)]

namespace Date

open Text (isAsciiDigit isDecimalDigit asciiLowerChar decimalNumber)

variable {ds month : List Char} {found : Found Date}

/-! ### Numbers -/

/-- ASCII digits are read as their number, anything else as zero. -/
theorem numberOf_ofList (hne : ds ≠ []) :
    numberOf (.ofList ds) = if ds.all isAsciiDigit then decimalNumber ds else 0 := by
  have hempty : ds.isEmpty = false := List.isEmpty_eq_false_iff.mpr hne
  rw [numberOf, String.toList_ofList, Text.readNat?, hempty, Bool.not_false, Bool.true_and]
  split
  case isTrue hall => rw [Text.decimalNumber_eq (List.all_eq_true.mp hall), Option.getD_some]
  case isFalse => rfl

/-- The year that digits of any script stand for. -/
def writtenYear (ds : List Char) : Nat :=
  if ds.length = 2 then 2000 + decimalNumber ds else decimalNumber ds

/-- A year in ASCII digits is read as it is written, any other as zero. -/
theorem yearOf_ofList (h : IsYear ds) :
    yearOf (.ofList ds) = if ds.all isAsciiDigit then writtenYear ds else 0 := by
  rw [yearOf, numberOf_ofList h.ne_nil, Text.utf8ByteSize_ofList]
  by_cases hall : ds.all isAsciiDigit = true
  · have hsize : ∀ d ∈ ds, d.utf8Size = 1 := fun d hd =>
      Text.utf8Size_of_isAsciiDigit (List.all_eq_true.mp hall d hd)
    rw [if_pos hall, if_pos hall, Text.byteLength_eq_length hsize, writtenYear]
  · -- two bytes would be two ASCII digits
    have htwo : Text.byteLength ds ≠ 2 := by
      intro htwo
      have hle := Text.length_le_byteLength ds
      have hlength : ds.length = 2 := by
        rcases h with ⟨hfour, -⟩ | ⟨hlength, -⟩
        · omega
        · exact hlength
      have hsize := Text.utf8Size_eq_one_of_byteLength_le (Nat.le_of_eq (htwo.trans hlength.symm))
      exact hall (List.all_eq_true.mpr fun d hd =>
        Text.isAsciiDigit_of_isDecimalDigit (h.isDigits d hd) (hsize d hd))
    rw [if_neg htwo, if_neg hall, if_neg hall]

/-! ### Months -/

/-- The names of the months with their numbers. -/
def namedMonths : List (String × Nat) :=
  [("enero", 1), ("febrero", 2), ("marzo", 3), ("abril", 4), ("mayo", 5), ("junio", 6),
    ("julio", 7), ("agosto", 8), ("septiembre", 9), ("setiembre", 9), ("octubre", 10),
    ("noviembre", 11), ("diciembre", 12)]

/-- A text is the name of a month, in any case of its ASCII letters. -/
def NamesMonth (month : List Char) (n : Nat) : Prop :=
  ∃ name, (name, n) ∈ namedMonths ∧ month.map asciiLowerChar = name.toList

theorem monthOf_of_mem {s name : String} {n : Nat} (h : (name, n) ∈ namedMonths)
    (hs : Text.lower s = name) : monthOf s = n := by
  rw [monthOf, hs]
  simp only [namedMonths, List.mem_cons, Prod.mk.injEq, List.not_mem_nil, or_false] at h
  rcases h with ⟨rfl, rfl⟩ | ⟨rfl, rfl⟩ | ⟨rfl, rfl⟩ | ⟨rfl, rfl⟩ | ⟨rfl, rfl⟩ | ⟨rfl, rfl⟩ |
    ⟨rfl, rfl⟩ | ⟨rfl, rfl⟩ | ⟨rfl, rfl⟩ | ⟨rfl, rfl⟩ | ⟨rfl, rfl⟩ | ⟨rfl, rfl⟩ | ⟨rfl, rfl⟩ <;> rfl

theorem mem_namedMonths {s : String} (h : monthOf s ≠ 0) :
    (Text.lower s, monthOf s) ∈ namedMonths := by
  unfold monthOf at h ⊢
  split at h <;> simp_all [namedMonths]

/-- A text of characters that ASCII lower-casing is enough for. -/
theorem lowerChars_eq_map (h : ∀ c ∈ month, c ≠ 'Σ' ∧ Text.lowerChar c = [asciiLowerChar c]) :
    Text.lowerChars month = month.map asciiLowerChar := by
  have hafter : ∀ before, Text.lowerAfter before month = month.map asciiLowerChar := by
    induction month with
    | nil => exact fun _ => rfl
    | cons c month ih =>
      obtain ⟨⟨hsigma, hc⟩, hmonth⟩ := List.forall_mem_cons.mp h
      intro before
      rw [Text.lowerAfter, if_neg hsigma, hc, ih hmonth, List.map_cons, List.singleton_append]
  exact hafter []

/-- No form of a letter of a month is changed by more than ASCII lower-casing. -/
theorem lower_ofList (h : IsMonthName month) :
    Text.lower (.ofList month) = .ofList (month.map asciiLowerChar) := by
  obtain ⟨name, hname, hspells⟩ := h
  have hforms : ∀ name ∈ Pattern.monthNames, ∀ letter ∈ name.toList,
      ∀ c ∈ letter :: Pattern.otherForms letter,
        c ≠ 'Σ' ∧ Text.lowerChar c = [asciiLowerChar c] := by decide +kernel
  rw [Text.lower, String.toList_ofList, lowerChars_eq_map]
  intro c hc
  obtain ⟨letter, hletter, hcase⟩ := hspells.exists_letter c hc
  rw [Pattern.isCaseOf, Bool.or_eq_true, beq_iff_eq, List.contains_iff_mem] at hcase
  exact hforms name hname letter hletter c (List.mem_cons.mpr hcase)

theorem monthOf_eq (h : IsMonthName month) {n : Nat} (hnames : NamesMonth month n) :
    monthOf (.ofList month) = n := by
  obtain ⟨name, hmem, heq⟩ := hnames
  exact monthOf_of_mem hmem (by rw [lower_ofList h, heq, String.ofList_toList])

theorem namesMonth_monthOf (h : IsMonthName month) (hne : monthOf (.ofList month) ≠ 0) :
    NamesMonth month (monthOf (.ofList month)) := by
  have hmem := mem_namedMonths hne
  rw [lower_ofList h] at hmem
  exact ⟨_, hmem, String.toList_ofList.symm⟩

/-! ### Days of the calendar -/

theorem ofParts?_eq_some {year month day : Nat} {date : Date} :
    ofParts? year month day = some date ↔
      date.year = year ∧ date.month = month ∧ date.day = day := by
  rw [ofParts?]
  constructor
  · intro h
    split at h
    case isFalse => exact nomatch h
    case isTrue =>
      obtain rfl := Option.some.inj h
      exact ⟨rfl, rfl, rfl⟩
  · rintro ⟨rfl, rfl, rfl⟩
    exact dif_pos ⟨date.one_le_day, date.day_le⟩

theorem ofParts?_eq_none {year month day : Nat} :
    ofParts? year month day = none ↔ ¬ (1 ≤ day ∧ day ≤ daysInMonth year month) := by
  rw [ofParts?]
  split <;> simp_all

/-- No day of the calendar has the month zero. -/
theorem month_ne_zero (date : Date) : date.month ≠ 0 := by
  intro hzero
  have hle := date.day_le
  rw [hzero] at hle
  exact absurd (Nat.le_trans date.one_le_day hle) (by simp [daysInMonth])

/-! ### Dates that are located -/

/-- The month of a writing, as a number or by its name. -/
def Writing.MonthIs : Writing → Nat → Prop
  | numeric w, n => n = decimalNumber w.month
  | long w, n => NamesMonth w.month n

/-- A number that is not read as zero is read as it is written. -/
theorem eq_decimalNumber {n : Nat} (hne : ds ≠ []) (hn : n ≠ 0) (h : n = numberOf (.ofList ds)) :
    n = decimalNumber ds := by
  rw [numberOf_ofList hne] at h
  split at h
  case isTrue => exact h
  case isFalse => exact absurd h hn

/-- A year of four digits is read like any other. -/
theorem yearOf_eq_numberOf (h : IsLongYear ds) : yearOf (.ofList ds) = numberOf (.ofList ds) := by
  have hne : ds.length ≠ 2 := by
    rw [h.1]
    decide
  rw [yearOf_ofList (.inl h), numberOf_ofList (IsYear.ne_nil (.inl h)), writtenYear, if_neg hne]

/-- Every reported date stands in the text with its day and its month. Its year stands there too if
it is written in ASCII digits, and is zero otherwise. -/
theorem reads_as_written {text : String} (h : found ∈ locate text) :
    ∃ (w : Writing) (front back : List Char), text.toList = front ++ (w.text ++ back) ∧
      found.span.text = .ofList w.text ∧ found.value.day = decimalNumber w.day ∧
      w.MonthIs found.value.month ∧
      found.value.year = (if w.year.all isAsciiDigit then writtenYear w.year else 0) ∧
      (found.value.year = writtenYear w.year ↔
        w.year.all isAsciiDigit = true ∨ writtenYear w.year = 0) := by
  obtain ⟨w, front, back, htext, hsource, hdate⟩ := exists_writing_of_mem_locate h
  have hday_ne : found.value.day ≠ 0 := Nat.ne_of_gt found.value.one_le_day
  have hmonth_ne := month_ne_zero found.value
  have hread : found.value.day = decimalNumber w.day ∧ w.MonthIs found.value.month ∧
      found.value.year = yearOf (.ofList w.year) := by
    cases w with
    | numeric w =>
      obtain ⟨hyear, hmonth, hday⟩ := ofParts?_eq_some.mp hdate
      exact ⟨eq_decimalNumber w.isShort_day.ne_nil hday_ne hday,
        eq_decimalNumber w.isShort_month.ne_nil hmonth_ne hmonth, hyear⟩
    | long w =>
      obtain ⟨hyear, hmonth, hday⟩ := ofParts?_eq_some.mp hdate
      refine ⟨eq_decimalNumber w.isShort_day.ne_nil hday_ne hday, ?_,
        hyear.trans (yearOf_eq_numberOf w.isLongYear_year).symm⟩
      rw [hmonth] at hmonth_ne ⊢
      exact namesMonth_monthOf w.isMonthName_month hmonth_ne
  obtain ⟨hday, hmonth, hyear⟩ := hread
  rw [yearOf_ofList w.isYear_year] at hyear
  refine ⟨w, front, back, htext, hsource, hday, hmonth, hyear, ?_⟩
  rw [hyear]
  split
  case isTrue hall => exact iff_of_true rfl (.inl hall)
  case isFalse hall => exact ⟨fun hzero => .inr hzero.symm, fun hor => (hor.resolve_left hall).symm⟩

/-- A date with a year of two digits, reported as it is written. -/
theorem reads_as_written_short :
    (⟨⟨2024, 2, 1, by decide, by decide⟩, ⟨6, 14, "01-02.24"⟩⟩ : Found Date) ∈
        locate "Fecha 01-02.24" ∧
      ∃ w : Writing, w.text = "01-02.24".toList ∧ decimalNumber w.day = 1 ∧ w.MonthIs 2 ∧
        writtenYear w.year = 2024 := by
  have hfound : (⟨⟨2024, 2, 1, by decide, by decide⟩, ⟨6, 14, "01-02.24"⟩⟩ : Found Date) ∈
      locate "Fecha 01-02.24" := by decide +kernel
  obtain ⟨w, -, -, -, hsource, hday, hmonth, hyear, -⟩ := reads_as_written hfound
  have hne : writtenYear w.year = 2024 := by
    split at hyear
    case isTrue => exact hyear.symm
    case isFalse => exact nomatch hyear
  have htext : w.text = "01-02.24".toList :=
    String.toList_ofList.symm.trans (congrArg String.toList hsource.symm)
  exact ⟨hfound, w, htext, hday.symm, hmonth, hne⟩

/-- A year in digits of another script is reported as zero. -/
theorem exists_year_not_as_written :
    ¬ ∀ text, ∀ found ∈ locate text, ∃ w : Writing, found.span.text = .ofList w.text ∧
      found.value.day = decimalNumber w.day ∧ w.MonthIs found.value.month ∧
      found.value.year = writtenYear w.year := by
  intro hall
  have hfound : (⟨⟨0, 2, 1, by decide, by decide⟩, ⟨0, 14, "01/02/٢٠٢٤"⟩⟩ : Found Date) ∈
      locate "01/02/٢٠٢٤" := by decide +kernel
  obtain ⟨w, hsource, -, -, hyear⟩ := hall _ _ hfound
  -- the year is the end of the text, and its two or its four last digits do not make zero
  obtain ⟨front, hfront⟩ := w.exists_text_eq_append_year
  have htext : "01/02/٢٠٢٤".toList = front ++ w.year :=
    (congrArg String.toList hsource).trans (String.toList_ofList.trans hfront)
  have hlength := congrArg List.length htext
  rw [List.length_append] at hlength
  have hsuffix : ∀ n, front.length = n → w.year = "01/02/٢٠٢٤".toList.drop n := by
    rintro n rfl
    rw [htext, List.drop_left]
  rcases w.isYear_year with ⟨hfour, -⟩ | ⟨htwo, -⟩
  · have hsix : front.length = 6 := Nat.add_right_cancel (hlength.symm.trans (hfour ▸ rfl))
    rw [hsuffix 6 hsix] at hyear
    exact absurd hyear (by decide)
  · have height : front.length = 8 := Nat.add_right_cancel (hlength.symm.trans (htwo ▸ rfl))
    rw [hsuffix 8 height] at hyear
    exact absurd hyear (by decide)

end Date

end InvoiceFields
