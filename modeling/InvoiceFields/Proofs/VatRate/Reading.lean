import InvoiceFields.Proofs.Amount.Rereading
import InvoiceFields.Proofs.Decimal.Value
import InvoiceFields.Proofs.VatRate.Usable

/-!
# Rates that are shown and read

A rate is shown as a percentage without trailing zeros, and it is read again from that text
(`exists_read_shown`). A whole percentage is the same rate, whether it is given as a number or read
from its digits, with a percent sign or without one (`exists_read_percentText`). Every rate that is
read can be used and shown (`read_spellings`).
-/

namespace InvoiceFields.VatRate

open Decimal (Representable)
open Text (isAsciiDigit isBlank)

variable {rate : VatRate} {d : Decimal} {s : String} {text : List Char} {percent : UInt32}

/-! ### Percentages -/

/-- A hundredth that is a decimal is exact. -/
theorem value_hundredth (h : Representable (d.value / 100)) :
    (hundredth d).value = d.value / 100 := by
  have hone : 1 ≤ Decimal.hundred.value := by norm_num
  obtain ⟨q, hq⟩ := Decimal.exists_div?_of_one_le hone d
  rw [← Decimal.value_hundred] at h ⊢
  rw [hundredth, hq, Option.getD_some, Decimal.value_of_div? hq h]

/-- A number above zero with a percent sign, or of one or more, is read as a percentage. -/
theorem exists_read_percentage (hread : Amount.normalizeChars? (Text.trimChars s.toList) = some d)
    (hpercent : (Text.trimChars s.toList).getLast? = some '%' ∨ 1 ≤ d.value) (hpos : 0 < d.value)
    (hfit : Representable (d.value / 100)) :
    ∃ rate, read s = .ok rate ∧ rate.fraction.value = d.value / 100 := by
  have hvalue := value_hundredth hfit
  have hpositive : 0 < (hundredth d).coefficient := by
    rw [← Decimal.value_pos, hvalue]
    positivity
  have htrim : (Text.trim s).toList = Text.trimChars s.toList := String.toList_ofList
  have hbranch : (Text.trim s).toList.getLast? = some '%' ∨
      Decimal.compareValue d .one ≠ .lt := by
    rwa [htrim, ne_eq, Decimal.compareValue_eq_lt, Decimal.value_one, not_lt]
  refine ⟨⟨hundredth d, hpositive⟩, ?_, hvalue⟩
  have hnormalize : Amount.normalize? (Text.trim s) = some d := by
    rw [Amount.normalize?, htrim, hread]
  simp only [read, hnormalize, if_pos hbranch, ofFraction, dif_pos hpositive]

/-! ### Rates that are shown -/

/-- A percent sign is no part of a number. -/
private theorem fringe_percent : Amount.Fringe Amount.isMargin ['%'] :=
  Amount.fringe_of_forall (List.forall_mem_singleton.mpr (by decide))

/-- A rate whose hundredfold is a decimal is read from the text that it is shown as. -/
theorem exists_read_shown (h : Representable (rate.fraction.value * 100)) :
    ∃ shown rate', rate.shown = .ok shown ∧ read shown = .ok rate' ∧
      rate'.fraction.value = rate.fraction.value := by
  rw [← Decimal.value_hundred] at h
  obtain ⟨product, hproduct, hvalue⟩ := Decimal.exists_mul? h
  rw [← product.value_normalize, Decimal.value_hundred] at hvalue
  have hshown : rate.shown = .ok (product.normalize.text ++ "%") := by rw [shown, hproduct]
  generalize product.normalize = d at hvalue hshown
  have hback : d.value / 100 = rate.fraction.value := by
    rw [hvalue, mul_div_cancel_right₀ _ (by norm_num)]
  have hpos : 0 < d.value := by
    rw [hvalue]
    exact mul_pos rate.value_pos (by norm_num)
  have htext : (d.text ++ "%").toList = d.chars ++ ['%'] := by
    rw [String.toList_append, Decimal.text, String.toList_ofList]
    rfl
  have htrim : Text.trimChars (d.text ++ "%").toList = d.chars ++ ['%'] := by
    rw [htext]
    exact Text.trimChars_eq_self (List.forall_mem_append.mpr
      ⟨fun _ => d.isBlank_of_mem_chars, List.forall_mem_singleton.mpr (by decide)⟩)
  have hread : Amount.normalizeChars? (Text.trimChars (d.text ++ "%").toList) = some d := by
    rw [htrim]
    exact Amount.normalizeChars?_chars d fringe_percent
  obtain ⟨rate', hrate', hfraction⟩ := exists_read_percentage hread
    (.inl (by rw [htrim, List.getLast?_concat])) hpos ⟨rate.fraction, hback.symm⟩
  exact ⟨_, rate', hshown, hrate', hfraction.trans hback⟩

/-! ### Whole percentages -/

/-- What may stand behind the digits of a percentage: nothing, or a percent sign, perhaps behind
blanks. -/
def IsPercentMark (mark : List Char) : Prop :=
  mark = [] ∨ ∃ gap, (∀ c ∈ gap, isBlank c = true) ∧ mark = gap ++ ['%']

/-- The ways to write down a whole percentage: its digits, with a percent sign or without one, and
blanks around them. -/
inductive PercentText (n : Nat) : List Char → Prop
  | mk {before digits mark after : List Char} (hbefore : ∀ c ∈ before, isBlank c = true)
      (hne : digits ≠ []) (hdigits : ∀ c ∈ digits, isAsciiDigit c = true)
      (hvalue : Text.digitsValue digits = n) (hmark : IsPercentMark mark)
      (hafter : ∀ c ∈ after, isBlank c = true) :
      PercentText n (before ++ (digits ++ mark ++ after))

theorem IsPercentMark.fringe {mark : List Char} (h : IsPercentMark mark) :
    Amount.Fringe Amount.isMargin mark := by
  rcases h with rfl | ⟨gap, hgap, rfl⟩
  · exact .nil
  · refine (Amount.fringe_of_forall fun c hc => ?_).append fringe_percent
    rw [Amount.isMargin, Amount.isPadding, hgap c hc, Bool.true_or, Bool.true_or]

theorem IsPercentMark.not_of_getLast? {mark : List Char} (h : IsPercentMark mark) :
    ∀ c, mark.getLast? = some c → isBlank c = false := by
  rcases h with rfl | ⟨gap, -, rfl⟩
  · exact nofun
  · rw [List.getLast?_concat]
    rintro _ ⟨⟩
    decide

/-- A whole percentage is read as its number. -/
theorem PercentText.exists_normalizeChars? {n : Nat} (h : PercentText n text)
    (hn : n < twoTo 96) :
    ∃ d, Amount.normalizeChars? (Text.trimChars text) = some d ∧ d.value = n := by
  obtain @⟨before, digits, mark, after, hbefore, hne, hdigits, rfl, hmark, hafter⟩ := h
  have hblank : ∀ c ∈ digits, isBlank c = false := fun c hc =>
    Text.isBlank_of_isAsciiDigit (hdigits c hc)
  have hlast : ∀ c, (digits ++ mark).getLast? = some c → isBlank c = false := by
    intro c hc
    rw [List.getLast?_append, Option.or_eq_some_iff] at hc
    rcases hc with hc | ⟨-, hc⟩
    · exact hmark.not_of_getLast? c hc
    · exact hblank c (List.mem_of_getLast? hc)
  have htrim : Text.trimChars (before ++ (digits ++ mark ++ after)) = digits ++ mark :=
    Text.stripWhile_append hbefore (List.append_ne_nil_of_left_ne_nil hne mark)
      (Text.not_of_head?_append hne hblank) hlast hafter
  obtain ⟨d, hd, hcoefficient, hscale⟩ :=
    Amount.exists_normalizeChars?_digits hne hdigits hn hmark.fringe
  refine ⟨d, by rw [htrim, hd], ?_⟩
  rw [Decimal.value, hcoefficient, hscale, pow_zero, div_one, Int.cast_natCast]

/-- A whole percentage above zero is a rate, and it is the same one whether it is given as a number
or read from a text. -/
theorem exists_read_percentText (h : 1 ≤ percent) :
    ∃ rate, ofPercent percent = .ok rate ∧ rate.fraction.value = percent.toNat / 100 ∧
      ∀ text : String, PercentText percent.toNat text.toList →
        ∃ rate', read text = .ok rate' ∧ rate'.fraction.value = rate.fraction.value := by
  have hone : 1 ≤ percent.toNat := h
  have hone' : (1 : ℚ) ≤ percent.toNat := by exact_mod_cast hone
  have hlt : percent.toNat < twoTo 96 := percent.toNat_lt.trans (by decide)
  obtain ⟨d, hd⟩ : ∃ d, Decimal.ofParts? percent.toNat 2 = some d :=
    Decimal.exists_ofParts? (by rwa [Int.natAbs_natCast]) (by norm_num)
  have hvalue : d.value = percent.toNat / 100 := by
    rw [Decimal.value_of_ofParts? hd]
    norm_num
  have hpositive : 0 < d.coefficient := by
    rw [← Decimal.value_pos, hvalue]
    linarith
  refine ⟨⟨d, hpositive⟩, ?_, hvalue, fun text htext => ?_⟩
  · rw [ofPercent, hd, Option.getD_some, ofFraction, dif_pos hpositive]
  · obtain ⟨e, hread, he⟩ := htext.exists_normalizeChars? hlt
    obtain ⟨rate', hrate', hfraction⟩ := exists_read_percentage hread (.inr (by rwa [he]))
      (by linarith) ⟨d, by rw [hvalue, he]⟩
    exact ⟨rate', hrate', by rw [hfraction, he, hvalue]⟩

/-! ### The main statement -/

/-- **Rates in texts.** A rate whose hundredfold is a decimal is read from the text that it is shown
as. A whole percentage above zero is the same rate as a number, as its digits, and as its digits
with a percent sign. And every rate that is read is above zero and can be used and shown. -/
theorem read_spellings :
    (∀ (d : Decimal) (rate : VatRate), ofFraction d = .ok rate →
      Representable (rate.fraction.value * 100) →
        ∃ shown rate', rate.shown = .ok shown ∧ read shown = .ok rate' ∧
          rate'.fraction.value = rate.fraction.value) ∧
    (∀ percent : UInt32, 1 ≤ percent →
      ∃ rate, ofPercent percent = .ok rate ∧ rate.fraction.value = percent.toNat / 100 ∧
        ∀ text : String, PercentText percent.toNat text.toList →
          ∃ rate', read text = .ok rate' ∧ rate'.fraction.value = rate.fraction.value) ∧
    ∀ (text : String) (rate : VatRate), read text = .ok rate →
      0 < rate.fraction.value ∧ (∃ gross, rate.gross = .ok gross) ∧
        ∃ shown, rate.shown = .ok shown :=
  ⟨fun _ _ _ => exists_read_shown, fun _ => exists_read_percentText, fun _ rate h =>
    ⟨rate.value_pos, addable_of_hundredfold (hundredfold_of_read h),
      exists_shown_iff.mpr (hundredfold_of_read h)⟩⟩

/-- A rate with all the digits that there is room for, the largest percentage behind blanks, and a
rate with a comma. -/
theorem read_spellings_largest :
    (∃ rate, ofFraction ⟨79228162514264337593543950335, 28, by decide, by decide⟩ = .ok rate ∧
      ∃ shown rate', rate.shown = .ok shown ∧ read shown = .ok rate' ∧
        rate'.fraction.value = rate.fraction.value) ∧
    (∃ rate rate', ofPercent 4294967295 = .ok rate ∧ read "\t04294967295 % " = .ok rate' ∧
      rate'.fraction.value = rate.fraction.value) ∧
    ∃ gross, general.gross = .ok gross := by
  have hrate : ofFraction ⟨79228162514264337593543950335, 28, by decide, by decide⟩ =
      .ok ⟨⟨79228162514264337593543950335, 28, by decide, by decide⟩, by decide⟩ := by decide
  have hfit : Representable ((⟨79228162514264337593543950335, 28, by decide, by decide⟩ :
      Decimal).value * 100) :=
    ⟨⟨79228162514264337593543950335, 26, by decide, by decide⟩, by norm_num [Decimal.value]⟩
  have htext : PercentText 4294967295 (['\t'] ++ ("04294967295".toList ++ " %".toList ++ [' '])) :=
    .mk (by decide) (by decide) (by decide) (by decide) (.inr ⟨[' '], by decide, rfl⟩) (by decide)
  have hread : read "0,21" = .ok general := by decide +kernel
  obtain ⟨rate, hpercent, -, hall⟩ := read_spellings.2.1 4294967295 (by decide)
  obtain ⟨rate', hrate', hvalue⟩ := hall "\t04294967295 % " htext
  exact ⟨⟨_, hrate, read_spellings.1 _ _ hrate hfit⟩, ⟨rate, rate', hpercent, hrate', hvalue⟩,
    (read_spellings.2.2 _ _ hread).2.1⟩

end InvoiceFields.VatRate
