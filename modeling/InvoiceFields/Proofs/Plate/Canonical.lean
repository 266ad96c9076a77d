import InvoiceFields.Override
import InvoiceFields.Proofs.Heuristics.Scan
import InvoiceFields.Proofs.Pattern.Captures
import InvoiceFields.Proofs.Text.Capitals

/-!
# Canonical plates

A canonical plate is four ASCII digits and three capitals. The search for plates also takes digits
of other scripts, and the Kelvin sign for a `K`, and both stand in what it reports as they stand on
the line. `isPlate` and `normalize` drop such characters, so what is reported passes the check
exactly if it is written in ASCII, and then it is canonical (`Reported.isCanonical_iff`).
-/

namespace InvoiceFields.Plate

open Pattern (Captures Recognizes recognizes_one recognizes_times_one)
open Text (isAsciiDigit isDecimalDigit isWordChar upperChar)

variable {line plate : String} {c : Char} {cs letters : List Char}

/-! ### Letters -/

/-- The capitals of a plate. -/
def isPlateLetter (c : Char) : Bool := "BCDFGHJKLMNPRSTVWXYZ".toList.contains c

/-- The forms of the letters of a plate. -/
def isLetterForm (c : Char) : Bool :=
  "bcdfghjklmnprstvwxyz".toList.any fun x => c == x || (Pattern.otherForms x).contains c

/-- The forms of the letters, one after the other. -/
private def letterForms : List Char :=
  "bcdfghjklmnprstvwxyz".toList.flatMap fun x => x :: Pattern.otherForms x

private theorem mem_letterForms (h : isLetterForm c = true) : c ∈ letterForms := by
  obtain ⟨x, hx, hc⟩ := List.any_eq_true.mp h
  rw [Bool.or_eq_true, beq_iff_eq, List.contains_iff_mem] at hc
  exact List.mem_flatMap.mpr ⟨x, hx, List.mem_cons.mpr hc⟩

/-- A form of a letter has one capital, which is a letter of a plate. The Kelvin sign is its own. -/
theorem exists_capital (h : isLetterForm c = true) :
    ∃ u, upperChar c = [u] ∧ (isPlateLetter u = true ∨ c = '\u212a' ∧ u = '\u212a') := by
  have hforms : ∀ c ∈ letterForms, c = '\u212a' ∨
      ∃ u ∈ "BCDFGHJKLMNPRSTVWXYZ".toList, upperChar c = [u] := by decide +kernel
  rcases hforms c (mem_letterForms h) with rfl | ⟨u, hu, hc⟩
  · exact ⟨'\u212a', by decide +kernel, .inr ⟨rfl, rfl⟩⟩
  · exact ⟨u, hc, .inl (List.contains_iff_mem.mpr hu)⟩

theorem isWordChar_of_isLetterForm (h : isLetterForm c = true) : isWordChar c = true := by
  have hforms : ∀ c ∈ letterForms, isWordChar c = true := by decide +kernel
  exact hforms c (mem_letterForms h)

/-! ### Plates on a line -/

/-- A plate as it stands on a line: its digits, what is between, and its letters. -/
structure Token (digits gap letters : List Char) : Prop where
  length_digits : digits.length = 4
  decimal : ∀ d ∈ digits, isDecimalDigit d = true
  gap_eq : (∃ c, (Text.isBlank c || c == '-') = true ∧ gap = [c]) ∨ gap = []
  length_letters : letters.length = 3
  forms : ∀ c ∈ letters, isLetterForm c = true

/-- What the pattern of plates takes, and the digits and letters that it keeps. -/
private def Kept (cs : List Char) (kept : List (Nat × List Char)) : Prop :=
  ∃ digits gap letters, Token digits gap letters ∧ cs = digits ++ (gap ++ letters) ∧
    kept = [(1, digits), (2, letters)]

private theorem captures_kept : (Pattern.sequence [.group 1 (.times Pattern.digit 4),
    .optional (.one fun c => Text.isBlank c || c == '-'),
    .group 2 (.times (Pattern.anyCaseOf "bcdfghjklmnprstvwxyz") 3)]).Captures Kept := by
  have hdigits : (Pattern.times Pattern.digit 4).Recognizes _ := recognizes_times_one
  have hletters : (Pattern.times (Pattern.anyCaseOf "bcdfghjklmnprstvwxyz") 3).Recognizes _ :=
    recognizes_times_one
  refine (hdigits.sequence_captures_group 1 (recognizes_one.optional.sequence_captures
    (hletters.captures_group 2).sequence_singleton)).congr fun cs kept => ?_
  constructor
  · rintro ⟨digits, _, _, ⟨hlength, hdecimal⟩,
      ⟨gap, letters, hgap, ⟨⟨hlength', hforms⟩, rfl⟩, rfl⟩, rfl, rfl⟩
    exact ⟨digits, gap, letters, ⟨hlength, hdecimal, hgap, hlength', hforms⟩, rfl, rfl⟩
  · rintro ⟨digits, gap, letters, ⟨hlength, hdecimal, hgap, hlength', hforms⟩, rfl, rfl⟩
    exact ⟨digits, _, _, ⟨hlength, hdecimal⟩,
      ⟨gap, letters, hgap, ⟨⟨hlength', hforms⟩, rfl⟩, rfl⟩, rfl, rfl⟩

/-- A plate on a line begins with a digit and ends with a letter. -/
private theorem worded_kept : Pattern.Worded Kept := by
  rintro _ _ ⟨digits, gap, letters, htoken, rfl, -⟩
  constructor
  · obtain ⟨d, ds, rfl⟩ := List.exists_cons_of_length_eq_add_one htoken.length_digits
    exact ⟨d, _, rfl, Text.isWordChar_of_isDecimalDigit (htoken.decimal d List.mem_cons_self)⟩
  · have hne : letters ≠ [] := List.ne_nil_of_length_eq_add_one htoken.length_letters
    refine ⟨digits ++ (gap ++ letters.dropLast), letters.getLast hne, ?_,
      isWordChar_of_isLetterForm (htoken.forms _ (List.getLast_mem hne))⟩
    rw [List.append_assoc, List.append_assoc, List.dropLast_append_getLast hne]

/-- A plate that is found is the digits and the capitals of the letters of a plate on the line. -/
theorem exists_token_of_find? (h : find? line = some plate) : ∃ front back digits gap letters,
    line.toList = front ++ (digits ++ (gap ++ letters) ++ back) ∧ Token digits gap letters ∧
      plate.toList = digits ++ Text.upperChars letters := by
  obtain ⟨m, hm, rfl⟩ := Option.map_eq_some_iff.mp h
  have hmem : m ∈ Pattern.plateToken.findAll line.toList := List.mem_of_head? hm
  obtain ⟨front, _, back, _, hline, ⟨digits, gap, letters, htoken, rfl, rfl⟩, hholds, -, -⟩ :=
    Pattern.exists_of_mem_findAll_bounded captures_kept worded_kept hmem
  refine ⟨front, back, digits, gap, letters, hline, htoken, ?_⟩
  have hdigits : m.groupText 1 = .ofList digits := hholds.groupText_eq 1
  have hletters : m.groupText 2 = .ofList letters := hholds.groupText_eq 2
  rw [hdigits, hletters, Text.upper, String.toList_append, String.toList_ofList,
    String.toList_ofList, String.toList_ofList]

/-! ### Canonical plates -/

/-- Four ASCII digits and three capitals. -/
def IsCanonical (plate : String) : Prop :=
  plate.toList.length = 7 ∧ (∀ d ∈ plate.toList.take 4, isAsciiDigit d = true) ∧
    ∀ c ∈ plate.toList.drop 4, isPlateLetter c = true

instance (plate : String) : Decidable (IsCanonical plate) :=
  inferInstanceAs (Decidable (plate.toList.length = 7 ∧
    (∀ d ∈ plate.toList.take 4, isAsciiDigit d = true) ∧
    ∀ c ∈ plate.toList.drop 4, isPlateLetter c = true))

/-- A text of ASCII characters, which have one byte each. -/
def IsAscii (s : String) : Prop := ∀ c ∈ s.toList, c.utf8Size = 1

instance (s : String) : Decidable (IsAscii s) :=
  inferInstanceAs (Decidable (∀ c ∈ s.toList, c.utf8Size = 1))

/-- Between the start and the end of a text the pattern takes digits of any script. -/
private theorem occursIn_plateCanonical : Pattern.plateCanonical.occursIn cs = true ↔
    cs.length = 7 ∧ (∀ d ∈ cs.take 4, isDecimalDigit d = true) ∧
      ∀ c ∈ cs.drop 4, isPlateLetter c = true := by
  have hdigits : (Pattern.times Pattern.digit 4).Recognizes _ := recognizes_times_one
  have hletters : (Pattern.times (Pattern.anyOf "BCDFGHJKLMNPRSTVWXYZ") 3).Recognizes _ :=
    recognizes_times_one
  have hcanonical : (Pattern.sequence [.times Pattern.digit 4,
      .times (Pattern.anyOf "BCDFGHJKLMNPRSTVWXYZ") 3]).Recognizes fun cs => cs.length = 7 ∧
        (∀ d ∈ cs.take 4, isDecimalDigit d = true) ∧ ∀ c ∈ cs.drop 4, isPlateLetter c = true := by
    refine (hdigits.sequence hletters.sequence_singleton).congr fun cs => ?_
    constructor
    · rintro ⟨digits, letters, ⟨hlength, hdecimal⟩, ⟨hlength', hletters⟩, rfl⟩
      rw [List.length_append, List.take_left' hlength, List.drop_left' hlength]
      exact ⟨by omega, hdecimal, hletters⟩
    · rintro ⟨hlength, hdecimal, hletters⟩
      refine ⟨cs.take 4, cs.drop 4, ⟨?_, hdecimal⟩, ⟨?_, hletters⟩,
        (List.take_append_drop 4 cs).symm⟩
      · rw [List.length_take, hlength]
        rfl
      · rw [List.length_drop, hlength]
  exact Pattern.occursIn_anchored hcanonical fun h => nomatch h.1

/-! ### The canonical form -/

theorem utf8Size_of_isPlateChar (h : isPlateChar c = true) : c.utf8Size = 1 := by
  have hle : c ≤ 'z' := by
    simp only [isPlateChar, isAsciiDigit, Text.isAsciiUpper, Text.isAsciiLower, Bool.or_eq_true,
      Bool.and_eq_true, decide_eq_true_iff] at h
    rcases h with (⟨-, h⟩ | ⟨-, h⟩) | ⟨-, h⟩
    · exact Char.le_trans h (by decide)
    · exact Char.le_trans h (by decide)
    · exact h
  exact Char.utf8Size_eq_one_iff.mpr (UInt32.le_trans hle (by decide))

theorem isPlateChar_of_isPlateLetter (h : isPlateLetter c = true) :
    isPlateChar c = true ∧ c ≤ 'Z' := by
  have hletters : ∀ c ∈ "BCDFGHJKLMNPRSTVWXYZ".toList, isPlateChar c = true ∧ c ≤ 'Z' := by decide
  exact hletters c (List.contains_iff_mem.mp h)

theorem isPlateChar_of_isAsciiDigit (h : isAsciiDigit c = true) :
    isPlateChar c = true ∧ c ≤ 'Z' := by
  refine ⟨by rw [isPlateChar, h]; rfl, ?_⟩
  exact Char.le_trans (of_decide_eq_true (Bool.and_eq_true_iff.mp h).2) (by decide)

/-- The ASCII letters and digits of a text remain ASCII characters as capitals. -/
theorem isAscii_normalize (raw : String) : IsAscii (normalize raw) := by
  intro d hd
  rw [normalize, String.toList_ofList] at hd
  obtain ⟨c, hc, hd⟩ := List.mem_flatMap.mp hd
  have hsize := utf8Size_of_isPlateChar (List.mem_filter.mp hc).2
  rw [Text.upperChar_of_utf8Size hsize, List.mem_singleton] at hd
  rw [hd]
  exact Text.utf8Size_asciiUpperChar hsize

/-- As many characters are left as the text has ASCII letters and digits. -/
theorem length_normalize (raw : String) :
    (normalize raw).toList.length = (raw.toList.filter isPlateChar).length := by
  rw [normalize, String.toList_ofList]
  exact Text.length_upperChars fun c hc =>
    ⟨_, Text.upperChar_of_utf8Size (utf8Size_of_isPlateChar (List.mem_filter.mp hc).2)⟩

theorem IsCanonical.isPlateChar (h : IsCanonical plate) :
    ∀ c ∈ plate.toList, isPlateChar c = true ∧ c ≤ 'Z' := by
  obtain ⟨-, hdigits, hletters⟩ := h
  intro c hc
  rw [← List.take_append_drop 4 plate.toList, List.mem_append] at hc
  rcases hc with hc | hc
  · exact isPlateChar_of_isAsciiDigit (hdigits c hc)
  · exact isPlateChar_of_isPlateLetter (hletters c hc)

theorem IsCanonical.isAscii (h : IsCanonical plate) : IsAscii plate := fun c hc =>
  utf8Size_of_isPlateChar (h.isPlateChar c hc).1

/-- A canonical plate is its own canonical form. -/
theorem IsCanonical.normalize_eq (h : IsCanonical plate) : normalize plate = plate := by
  rw [normalize, List.filter_eq_self.mpr fun c hc => (h.isPlateChar c hc).1,
    Text.upperChars_eq_self fun c hc => Text.upperChar_of_le (h.isPlateChar c hc).2,
    String.ofList_toList]

/-- A text is one plate exactly if its canonical form is canonical. -/
theorem isPlate_iff {raw : String} : isPlate raw = true ↔ IsCanonical (normalize raw) := by
  rw [isPlate, occursIn_plateCanonical]
  refine and_congr_right fun _ => and_congr_left fun _ => forall₂_congr fun d hd => ?_
  exact ⟨fun h => Text.isAsciiDigit_of_isDecimalDigit h
    (isAscii_normalize raw d (List.mem_of_mem_take hd)), Text.isDecimalDigit_of_isAsciiDigit⟩

/-! ### Plates that are found -/

/-- The capitals of the letters on a line. -/
theorem upperChars_of_forms (h : ∀ c ∈ letters, isLetterForm c = true) :
    (Text.upperChars letters).length = letters.length ∧ ∀ u ∈ Text.upperChars letters,
      isPlateLetter u = true ∨ '\u212a' ∈ letters ∧ u = '\u212a' := by
  refine ⟨Text.length_upperChars fun c hc => ?_, fun u hu => ?_⟩
  · obtain ⟨u, hu, -⟩ := exists_capital (h c hc)
    exact ⟨u, hu⟩
  · obtain ⟨c, hc, hu⟩ := List.mem_flatMap.mp hu
    obtain ⟨u', hu', hcapital⟩ := exists_capital (h c hc)
    rw [hu', List.mem_singleton] at hu
    subst hu
    exact hcapital.imp_right fun ⟨hkelvin, hu⟩ => ⟨hkelvin ▸ hc, hu⟩

/-- A plate that is found has seven characters. -/
theorem length_of_find? (h : find? line = some plate) : plate.toList.length = 7 := by
  obtain ⟨-, -, digits, gap, letters, -, htoken, hplate⟩ := exists_token_of_find? h
  rw [hplate, List.length_append, (upperChars_of_forms htoken.forms).1, htoken.length_digits,
    htoken.length_letters]

/-- A plate that is found in ASCII characters is canonical. -/
theorem isCanonical_of_isAscii (h : find? line = some plate) (hascii : IsAscii plate) :
    IsCanonical plate := by
  refine ⟨length_of_find? h, ?_⟩
  obtain ⟨-, -, digits, gap, letters, -, htoken, hplate⟩ := exists_token_of_find? h
  rw [IsAscii, hplate, List.forall_mem_append] at hascii
  rw [hplate, List.take_left' htoken.length_digits, List.drop_left' htoken.length_digits]
  refine ⟨fun d hd => Text.isAsciiDigit_of_isDecimalDigit (htoken.decimal d hd) (hascii.1 d hd),
    fun u hu => ?_⟩
  rcases (upperChars_of_forms htoken.forms).2 u hu with hletter | ⟨-, rfl⟩
  · exact hletter
  · exact absurd (hascii.2 _ hu) (by decide)

/-- On a line with ASCII digits and without the Kelvin sign, plates are found in ASCII. -/
theorem isAscii_of_find? (h : find? line = some plate)
    (hdigits : ∀ d ∈ line.toList, isDecimalDigit d = true → isAsciiDigit d = true)
    (hkelvin : '\u212a' ∉ line.toList) : IsAscii plate := by
  obtain ⟨front, back, digits, gap, letters, hline, htoken, hplate⟩ := exists_token_of_find? h
  have hmem : ∀ c, c ∈ digits ∨ c ∈ letters → c ∈ line.toList := by
    intro c hc
    rw [hline]
    simp only [List.mem_append]
    exact .inr (.inl (hc.imp_right .inr))
  rw [IsAscii, hplate, List.forall_mem_append]
  constructor
  · intro d hd
    exact Text.utf8Size_of_isAsciiDigit (hdigits d (hmem d (.inl hd)) (htoken.decimal d hd))
  · intro u hu
    rcases (upperChars_of_forms htoken.forms).2 u hu with hletter | ⟨hc, -⟩
    · exact utf8Size_of_isPlateChar (isPlateChar_of_isPlateLetter hletter).1
    · exact absurd (hmem _ (.inr hc)) hkelvin

/-- A plate that is found is ASCII if it passes the check: nothing of it may have been dropped. -/
theorem isAscii_of_isPlate (h : find? line = some plate) (hplate : isPlate plate = true) :
    IsAscii plate := by
  have hlength := (isPlate_iff.mp hplate).1
  rw [length_normalize, ← length_of_find? h, List.length_filter_eq_length_iff] at hlength
  exact fun c hc => utf8Size_of_isPlateChar (hlength c hc)

/-! ### Plates that are reported -/

/-- A plate that some lines report: the first one of a line, or the one that the override or the
heuristics give for a document. -/
inductive Reported : List String → String → Prop
  | line {line plate : String} (h : find? line = some plate) : Reported [line] plate
  | override {doc : Document} {settings : Settings} {plate : String}
      (h : Override.plateScan.apply doc settings = .ok (some (.text plate))) :
      Reported doc.lines plate
  | heuristics {doc : Document} {settings : Settings} {e : Extraction} {plate : String}
      (he : Heuristics.scan doc settings = .ok e) (h : e.get? .vehiclePlate = some (.text plate)) :
      Reported doc.lines plate

theorem Reported.exists_line {lines : List String} (h : Reported lines plate) :
    ∃ line ∈ lines, find? line = some plate := by
  have hdocument : ∀ {doc : Document}, (findIn? doc).map FieldValue.text = some (.text plate) →
      ∃ line ∈ doc.lines, find? line = some plate := by
    intro doc h
    obtain ⟨found, hfound, heq⟩ := Option.map_eq_some_iff.mp h
    cases heq
    exact List.exists_of_findSome?_eq_some hfound
  cases h with
  | line h => exact ⟨_, List.mem_singleton_self _, h⟩
  | override h => exact hdocument (Except.ok.inj h)
  | heuristics he h =>
    obtain ⟨_, _, -, -, hget⟩ := Heuristics.scan_eq_ok.mp he
    exact hdocument ((hget .vehiclePlate).symm.trans h)

/-- A plate that is reported is canonical, passes the check and is its own canonical form exactly if
it is written in ASCII characters, as it is where the lines have ASCII digits and no Kelvin sign. -/
theorem Reported.isCanonical_iff {lines : List String} (h : Reported lines plate) :
    (IsCanonical plate ↔ IsAscii plate) ∧ (isPlate plate = true ↔ IsAscii plate) ∧
      (normalize plate = plate ↔ IsAscii plate) ∧
      ((∀ line ∈ lines, '\u212a' ∉ line.toList ∧
        ∀ d ∈ line.toList, isDecimalDigit d = true → isAsciiDigit d = true) → IsAscii plate) := by
  obtain ⟨line, hline, hfind⟩ := h.exists_line
  refine ⟨⟨IsCanonical.isAscii, isCanonical_of_isAscii hfind⟩,
    ⟨isAscii_of_isPlate hfind, fun hascii => ?_⟩, ⟨fun heq => ?_, fun hascii => ?_⟩,
    fun hlines => ?_⟩
  · have hcanonical := isCanonical_of_isAscii hfind hascii
    rw [isPlate_iff, hcanonical.normalize_eq]
    exact hcanonical
  · rw [← heq]
    exact isAscii_normalize plate
  · exact (isCanonical_of_isAscii hfind hascii).normalize_eq
  · exact isAscii_of_find? hfind (hlines line hline).2 (hlines line hline).1

/-- A plate in small letters behind a word is reported in capitals. -/
theorem Reported.isCanonical_iff_capitals :
    find? "Matrícula: 1234 bcd" = some "1234BCD" ∧ IsAscii "1234BCD" ∧ IsCanonical "1234BCD" ∧
      isPlate "1234BCD" = true ∧ normalize "1234BCD" = "1234BCD" := by
  have hfind : find? "Matrícula: 1234 bcd" = some "1234BCD" := by decide +kernel
  have hascii : IsAscii "1234BCD" := by decide
  obtain ⟨hcanonical, hplate, hnormalize, -⟩ := Reported.isCanonical_iff (.line hfind)
  exact ⟨hfind, hascii, hcanonical.mpr hascii, hplate.mpr hascii, hnormalize.mpr hascii⟩

/-- Digits of another script are reported as they stand on the line. -/
theorem exists_reported_not_canonical :
    ¬ ∀ line plate, find? line = some plate →
      IsCanonical plate ∧ isPlate plate = true ∧ normalize plate = plate := by
  intro hall
  have hfind : find? "١٢٣٤ BCD" = some "١٢٣٤BCD" := by decide +kernel
  exact absurd (hall _ _ hfind).1 (by decide)

end InvoiceFields.Plate
