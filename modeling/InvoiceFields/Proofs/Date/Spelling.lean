import InvoiceFields.Proofs.Date.Rereading
import InvoiceFields.Proofs.Decimal.Rereading

/-!
# Spellings of a date

A day can be written down in numbers, with one or two digits for the day and the month and four or
two for the year, or with the name of the month. Every `Spelling` of a date is read back as that
date, and a spelling of a day that the calendar does not have is read as none (`locate_spelling`).
-/

namespace InvoiceFields.Date

open Pattern (Spells isCaseOf)
open Text (isAsciiDigit isDecimalDigit isWordChar asciiLowerChar digitsValue)

variable {cs ds front back : List Char} {n year month day : Nat}

/-! ### Words in any case -/

/-- A word in any case of its ASCII letters. -/
def IsCaseOfWord (cs : List Char) (word : String) : Prop := cs.map asciiLowerChar = word.toList

/-- A character is a form of its small letter. -/
theorem isCaseOf_asciiLowerChar (c : Char) : isCaseOf (asciiLowerChar c) c = true := by
  have hcapitals : ∀ n < 0x5b, 0x41 ≤ n →
      isCaseOf (asciiLowerChar (Char.ofNat n)) (Char.ofNat n) = true := by decide
  by_cases hupper : Text.isAsciiUpper c = true
  · obtain ⟨hlow, hhigh⟩ := Bool.and_eq_true_iff.mp hupper
    have hcase := hcapitals c.toNat (Nat.lt_succ_of_le (of_decide_eq_true hhigh))
      (of_decide_eq_true hlow)
    rwa [Char.ofNat_toNat] at hcase
  · rw [asciiLowerChar, if_neg hupper, isCaseOf, beq_self_eq_true, Bool.true_or]

theorem IsCaseOfWord.spells {word : String} (h : IsCaseOfWord cs word) : Spells word.toList cs := by
  rw [← h, Spells, List.forall₂_map_left_iff]
  exact List.forall₂_same.mpr fun c _ => isCaseOf_asciiLowerChar c

theorem NamesMonth.isMonthName (h : NamesMonth cs n) : IsMonthName cs := by
  obtain ⟨name, hmem, hname⟩ := h
  have hnames : ∀ e ∈ namedMonths, e.1 ∈ Pattern.monthNames := by decide
  exact ⟨name, hnames _ hmem, IsCaseOfWord.spells hname⟩

/-! ### Numbers -/

/-- A number in ASCII digits. -/
def Denotes (ds : List Char) (n : Nat) : Prop :=
  (∀ d ∈ ds, isAsciiDigit d = true) ∧ digitsValue ds = n

theorem Denotes.isDigits (h : Denotes ds n) : IsDigits ds := fun d hd =>
  Text.isDecimalDigit_of_isAsciiDigit (h.1 d hd)

theorem Denotes.numberOf_eq (h : Denotes ds n) (hne : ds ≠ []) : numberOf (.ofList ds) = n := by
  rw [numberOf_ofList hne, if_pos (List.all_eq_true.mpr h.1), Text.decimalNumber_eq h.1, h.2]

/-- A year in four digits, or one after 2000 in two. -/
def DenotesYear (ds : List Char) (year : Nat) : Prop :=
  ds.length = 4 ∧ Denotes ds year ∨ ds.length = 2 ∧ ∃ n, Denotes ds n ∧ year = 2000 + n

theorem DenotesYear.isYear (h : DenotesYear ds year) : IsYear ds := by
  rcases h with ⟨hlength, hyear⟩ | ⟨hlength, n, hyear, -⟩
  · exact .inl ⟨hlength, hyear.isDigits⟩
  · exact .inr ⟨hlength, hyear.isDigits⟩

theorem DenotesYear.yearOf_eq (h : DenotesYear ds year) : yearOf (.ofList ds) = year := by
  rw [yearOf_ofList h.isYear, writtenYear]
  rcases h with ⟨hlength, hdigits, hvalue⟩ | ⟨hlength, n, ⟨hdigits, hvalue⟩, rfl⟩
  · have hne : ds.length ≠ 2 := by omega
    rw [if_pos (List.all_eq_true.mpr hdigits), if_neg hne, Text.decimalNumber_eq hdigits, hvalue]
  · rw [if_pos (List.all_eq_true.mpr hdigits), if_pos hlength, Text.decimalNumber_eq hdigits,
      hvalue]

/-! ### Spellings -/

/-- The ways to write down a year, month and day. -/
inductive Spelling (year month day : Nat) : List Char → Prop
  | numeric {ds ms ys : List Char} {first second : Char}
      (hday : Denotes ds day) (hday_length : ds.length = 1 ∨ ds.length = 2)
      (hfirst : isMark first = true)
      (hmonth : Denotes ms month) (hmonth_length : ms.length = 1 ∨ ms.length = 2)
      (hsecond : isMark second = true) (hyear : DenotesYear ys year) :
      Spelling year month day (ds ++ first :: (ms ++ second :: ys))
  | long {ds gap₁ preposition gap₂ name gap₃ link ys : List Char}
      (hday : Denotes ds day) (hday_length : ds.length = 1 ∨ ds.length = 2)
      (hgap₁ : IsGap gap₁) (hpreposition : IsCaseOfWord preposition "de") (hgap₂ : IsGap gap₂)
      (hname : NamesMonth name month) (hgap₃ : IsGap gap₃)
      (hlink : link = [] ∨ ∃ word gap, (IsCaseOfWord word "de" ∨ IsCaseOfWord word "del") ∧
        IsGap gap ∧ link = word ++ gap)
      (hyear : Denotes ys year) (hyear_length : ys.length = 4) :
      Spelling year month day
        (ds ++ (gap₁ ++ (preposition ++ (gap₂ ++ (name ++ (gap₃ ++ (link ++ ys)))))))

/-- A spelling is a writing that is read as what it spells. -/
theorem Spelling.exists_writing (h : Spelling year month day cs) :
    ∃ w : Writing, w.text = cs ∧ w.date? = ofParts? year month day := by
  cases h with
  | @numeric ds ms ys first second hday hday_length hfirst hmonth hmonth_length hsecond hyear =>
    have hds : IsShort ds := ⟨hday_length, hday.isDigits⟩
    have hms : IsShort ms := ⟨hmonth_length, hmonth.isDigits⟩
    refine ⟨.numeric ⟨ds, first, ms, second, ys, hds, hfirst, hms, hsecond, hyear.isYear⟩, rfl, ?_⟩
    rw [Writing.date?, hyear.yearOf_eq, hmonth.numberOf_eq hms.ne_nil, hday.numberOf_eq hds.ne_nil]
  | @long ds gap₁ preposition gap₂ name gap₃ link ys hday hday_length hgap₁ hpreposition hgap₂ hname
      hgap₃ hlink hyear hyear_length =>
    have hds : IsShort ds := ⟨hday_length, hday.isDigits⟩
    have hys : IsLongYear ys := ⟨hyear_length, hyear.isDigits⟩
    have hde : IsLink link := by
      refine hlink.imp_right ?_
      rintro ⟨word, gap, hword, hgap, rfl⟩
      exact ⟨word, gap, hword.imp IsCaseOfWord.spells IsCaseOfWord.spells, hgap, rfl⟩
    refine ⟨.long ⟨ds, gap₁, preposition, gap₂, name, gap₃, link, ys, hds, hgap₁,
      hpreposition.spells, hgap₂, hname.isMonthName, hgap₃, hde, hys⟩, rfl, ?_⟩
    rw [Writing.date?, hyear.numberOf_eq (IsYear.ne_nil (.inl hys)),
      monthOf_eq hname.isMonthName hname, hday.numberOf_eq hds.ne_nil]

/-- A spelling of a date, with no digits and no word characters around it, is read back as that
date, and a spelling of a day that the calendar does not have is passed over. -/
theorem locate_spelling {spelling : List Char} (h : Spelling year month day spelling)
    (hfront : ∀ c ∈ front, isDecimalDigit c = false)
    (hback : ∀ c ∈ back, isDecimalDigit c = false)
    (hfront_free : front.getLast?.any isWordChar = false)
    (hback_free : back.head?.any isWordChar = false) :
    (∀ date : Date, date.year = year → date.month = month → date.day = day →
      parse? (.ofList (front ++ (spelling ++ back))) = some date ∧
        find? (.ofList (front ++ (spelling ++ back))) = some (.ofList spelling)) ∧
    (¬ (1 ≤ day ∧ day ≤ daysInMonth year month) →
      locate (.ofList (front ++ (spelling ++ back))) = []) := by
  obtain ⟨w, rfl, hdate⟩ := h.exists_writing
  obtain ⟨span, hspan, hlocate⟩ := locate_eq hfront hback hfront_free hback_free w
  rw [hdate] at hlocate
  constructor
  · intro date hyear hmonth hday
    rw [ofParts?_eq_some.mpr ⟨hyear, hmonth, hday⟩] at hlocate
    rw [parse?, find?, hlocate]
    exact ⟨rfl, congrArg some hspan⟩
  · intro hnone
    rw [hlocate, ofParts?_eq_none.mpr hnone]
    rfl

/-- A date in words behind other words, with the older name of September. -/
theorem locate_spelling_setiembre :
    parse? "Fecha: 3 de Setiembre  del 2024." = some ⟨2024, 9, 3, by decide, by decide⟩ ∧
      find? "Fecha: 3 de Setiembre  del 2024." = some "3 de Setiembre  del 2024" := by
  have hspelling : Spelling 2024 9 3 (['3'] ++ ([' '] ++ ("de".toList ++ ([' '] ++
      ("Setiembre".toList ++ ([' ', ' '] ++ ("del ".toList ++ "2024".toList))))))) :=
    .long ⟨by decide, rfl⟩ (.inl rfl) ⟨by decide, by decide⟩ rfl ⟨by decide, by decide⟩
      ⟨"setiembre", by decide, rfl⟩ ⟨by decide, by decide⟩
      (.inr ⟨"del".toList, [' '], .inr rfl, ⟨by decide, by decide⟩, rfl⟩) ⟨by decide, rfl⟩ rfl
  exact (@locate_spelling "Fecha: ".toList ['.'] 2024 9 3 _ hspelling (by decide) (by decide)
    (by decide) (by decide)).1 _ rfl rfl rfl

end InvoiceFields.Date
