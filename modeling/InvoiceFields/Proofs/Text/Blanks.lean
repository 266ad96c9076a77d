import InvoiceFields.Proofs.Decimal.Numerals
import InvoiceFields.Proofs.Text.Capitals
import InvoiceFields.Proofs.Text.Trimming

/-!
# Texts that end in no blank

Digits of any script and printed ASCII characters are no blanks. A text is `Closed` when its last
character is none, so that trimming the end of a longer text stops behind it.
-/

namespace InvoiceFields.Text

variable {c : Char} {cs a b : List Char}

/-! ### Characters -/

/-- The printed ASCII characters are no blanks. -/
theorem isBlank_of_printed (hlow : 0x21 ≤ c.toNat) (hhigh : c.toNat ≤ 0x7e) :
    isBlank c = false := by
  have hall : ∀ n < 0x7f, 0x21 ≤ n → inRanges blankRanges n = false := by decide
  exact hall c.toNat (Nat.lt_succ_of_le hhigh) hlow

theorem isBlank_of_isAsciiDigit (h : isAsciiDigit c = true) : isBlank c = false := by
  obtain ⟨hlow, hhigh⟩ := isAsciiDigit_iff.mp h
  exact isBlank_of_printed (by omega) (by omega)

theorem isDecimalDigit_of_isAsciiDigit (h : isAsciiDigit c = true) : isDecimalDigit c = true := by
  obtain ⟨hlow, hhigh⟩ := isAsciiDigit_iff.mp h
  rw [isDecimalDigit, decimalDigitRanges, inRanges, decide_eq_true hlow, decide_eq_true hhigh]
  rfl

/-- The digits of one byte are the ASCII digits. -/
theorem isAsciiDigit_of_isDecimalDigit (h : isDecimalDigit c = true) (hsize : c.utf8Size = 1) :
    isAsciiDigit c = true := by
  obtain ⟨r, hr, hlow, hhigh⟩ := exists_range_of_inRanges h
  have hbyte : c.toNat ≤ 0x7f := Char.utf8Size_eq_one_iff.mp hsize
  have hranges : ∀ r ∈ decimalDigitRanges, r.1 ≤ 0x7f → r = (0x30, 0x39) := by decide
  obtain rfl := hranges r hr (Nat.le_trans hlow hbyte)
  exact isAsciiDigit_iff.mpr ⟨hlow, hhigh⟩

/-- No digit of any script is a blank. -/
theorem isBlank_of_isDecimalDigit (h : isDecimalDigit c = true) : isBlank c = false := by
  refine Bool.eq_false_iff.mpr fun hblank => ?_
  obtain ⟨r, hr, hlow, hhigh⟩ := exists_range_of_inRanges h
  obtain ⟨s, hs, hlow', hhigh'⟩ := exists_range_of_inRanges hblank
  have hapart : ∀ r ∈ decimalDigitRanges, ∀ s ∈ blankRanges, r.2 < s.1 ∨ s.2 < r.1 := by decide
  rcases hapart r hr s hs with h | h <;> omega

/-- There are no blanks in a list if a test finds none. -/
theorem isBlank_of_all (h : cs.all (!isBlank ·) = true) : ∀ c ∈ cs, isBlank c = false :=
  fun c hc => (Bool.not_eq_true' _).mp (List.all_eq_true.mp h c hc)

/-! ### Ends -/

/-- The last character, if there is one, is no blank. -/
def Closed (cs : List Char) : Prop := ∀ c, cs.getLast? = some c → isBlank c = false

theorem closed_of_forall (h : ∀ c ∈ cs, isBlank c = false) : Closed cs := fun c hc =>
  h c (List.mem_of_getLast? hc)

theorem closed_trimChars : Closed (trimChars cs) := fun _ => not_of_getLast?_stripWhile

/-- A closed text behind another one is all that matters, unless it is empty. -/
theorem Closed.append (hb : Closed b) (hne : b ≠ []) : Closed (a ++ b) := by
  intro c hc
  rw [List.getLast?_append, List.getLast?_eq_some_getLast hne, Option.some_or] at hc
  exact hb c (hc ▸ List.getLast?_eq_some_getLast hne)

/-- A character that is no blank, with a closed text behind it. -/
theorem Closed.append_cons (hb : Closed b) (hc : isBlank c = false) : Closed (a ++ c :: b) := by
  refine Closed.append (fun d hd => ?_) (List.cons_ne_nil c b)
  cases b with
  | nil => exact Option.some.inj hd ▸ hc
  | cons e b => exact hb d hd

end InvoiceFields.Text
