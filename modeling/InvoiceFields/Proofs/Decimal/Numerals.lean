import InvoiceFields.Decimal.Basic

/-!
# Numerals

The digits of a number are read back as the number (`readNat?_digits`). They have no zero in front
unless the number is zero (`head?_digits`), and ASCII digits with that property are the digits of
the number they stand for (`digits_digitsValue`). So a number has one such numeral.
-/

namespace InvoiceFields

/-! ### ASCII digits -/

theorem Text.isAsciiDigit_iff {c : Char} :
    isAsciiDigit c = true ↔ 48 ≤ c.toNat ∧ c.toNat ≤ 57 := by
  rw [isAsciiDigit, Bool.and_eq_true, decide_eq_true_iff, decide_eq_true_iff]
  exact Iff.rfl

/-- A character is an ASCII digit, the one of its value. -/
theorem Text.digitChar_digitValue {c : Char} (h : isAsciiDigit c = true) :
    Nat.digitChar (digitValue c) = c := by
  obtain ⟨hlow, hhigh⟩ := isAsciiDigit_iff.mp h
  have hvalue : digitValue c = c.toNat - 48 := rfl
  have hlt : digitValue c < 10 := by omega
  refine Char.toNat_inj.mp ?_
  rw [Nat.toNat_digitChar_of_lt_ten hlt]
  omega

/-- Digits that are appended to a number do not make it smaller. -/
theorem Text.le_foldl_digitValue : ∀ (cs : List Char) (n : Nat),
    n ≤ cs.foldl (fun n c => n * 10 + digitValue c) n
  | [], n => Nat.le_refl n
  | c :: cs, n => Nat.le_trans (by omega) (le_foldl_digitValue cs (n * 10 + digitValue c))

namespace Decimal

variable {n : Nat} {c : Char} {cs : List Char}

theorem digits_ne_nil (n : Nat) : digits n ≠ [] := Nat.toDigits_ne_nil

theorem isAsciiDigit_of_mem_digits (h : c ∈ digits n) : Text.isAsciiDigit c = true := by
  have hdigit : c.isDigit = true := Nat.isDigit_of_mem_toDigits (by decide) (by decide) h
  rw [Char.isDigit, Bool.and_eq_true, decide_eq_true_iff, decide_eq_true_iff] at hdigit
  exact Text.isAsciiDigit_iff.mpr hdigit

/-- The digits of a number stand for it. -/
theorem digitsValue_digits (n : Nat) : Text.digitsValue (digits n) = n := by
  have hfold : ∀ (ds : List Char) (k : Nat),
      ds.foldl (fun k c => k * 10 + Text.digitValue c) k = Nat.ofDigitChars 10 ds k := by
    intro ds k
    rw [Nat.ofDigitChars_eq_foldl]
    congr
    funext k c
    rw [Nat.mul_comm]
    rfl
  rw [Text.digitsValue, hfold, digits, Nat.ofDigitChars_ten_toDigits]

theorem readNat?_digits (n : Nat) : Text.readNat? (digits n) = some n := by
  have hall : (digits n).all Text.isAsciiDigit = true :=
    List.all_eq_true.mpr fun _ hc => isAsciiDigit_of_mem_digits hc
  rw [Text.readNat?, hall, List.isEmpty_eq_false_iff.mpr (digits_ne_nil n), digitsValue_digits]
  rfl

/-- An integer is its magnitude with its sign. -/
theorem signed_natAbs (c : Int) : signed (decide (c < 0)) c.natAbs = c := by
  rw [signed]
  split
  case isTrue h =>
    have := of_decide_eq_true h
    omega
  case isFalse h =>
    have := of_decide_eq_false (Bool.eq_false_iff.mpr h)
    omega

/-! ### Numerals without zeros in front -/

/-- Digits behind those of a positive number are the last digits of a larger one. -/
private theorem digits_append :
    ∀ {cs : List Char} {n : Nat}, 0 < n → cs.all Text.isAsciiDigit = true →
      digits n ++ cs = digits (cs.foldl (fun k c => k * 10 + Text.digitValue c) n)
  | [], _, _, _ => List.append_nil _
  | c :: cs, n, hn, h => by
    obtain ⟨hc, hcs⟩ := Bool.and_eq_true_iff.mp h
    have hlt : Text.digitValue c < 10 := by
      obtain ⟨hlow, hhigh⟩ := Text.isAsciiDigit_iff.mp hc
      have hvalue : Text.digitValue c = c.toNat - 48 := rfl
      omega
    have hstep : digits n ++ [c] = digits (n * 10 + Text.digitValue c) := by
      have hjoin := Nat.toDigits_append_toDigits (by decide : 1 < 10) hn hlt
      rw [Nat.toDigits_of_lt_base hlt, Text.digitChar_digitValue hc] at hjoin
      rw [digits, hjoin, Nat.mul_comm, digits]
    have hpos : 0 < n * 10 + Text.digitValue c := by omega
    rw [List.foldl_cons, ← digits_append hpos hcs, ← hstep, List.append_assoc]
    rfl

/-- Digits without a zero in front are the digits of the number they stand for. -/
theorem digits_digitsValue (hcs : cs ≠ []) (hall : cs.all Text.isAsciiDigit = true)
    (hzero : cs.head? = some '0' → cs.length = 1) : digits (Text.digitsValue cs) = cs := by
  cases cs with
  | nil => exact absurd rfl hcs
  | cons c cs =>
    obtain ⟨hc, hall⟩ := Bool.and_eq_true_iff.mp hall
    obtain ⟨hlow, hhigh⟩ := Text.isAsciiDigit_iff.mp hc
    have hvalue : Text.digitValue c = c.toNat - 48 := rfl
    have hlt : Text.digitValue c < 10 := by omega
    have hfirst : digits (Text.digitValue c) = [c] := by
      rw [digits, Nat.toDigits_of_lt_base hlt, Text.digitChar_digitValue hc]
    have hstart : 0 * 10 + Text.digitValue c = Text.digitValue c := by omega
    rw [Text.digitsValue, List.foldl_cons, hstart]
    by_cases hpos : 0 < Text.digitValue c
    · rw [← digits_append hpos hall, hfirst]
      rfl
    · -- a zero in front stands alone
      have hc0 : c = '0' := Char.toNat_inj.mp (by show c.toNat = 48; omega)
      have hnil : cs = [] := List.eq_nil_of_length_eq_zero
        (Nat.succ.inj (hzero (congrArg some hc0)))
      rw [hnil, List.foldl_nil, hfirst]

/-- Only the numeral of zero starts with a zero. -/
theorem head?_digits : (digits n).head? = some '0' ↔ n = 0 := by
  refine ⟨fun h => ?_, fun h => h ▸ rfl⟩
  induction n using Nat.strongRecOn with
  | ind n ih =>
    rw [digits, Nat.toDigits_eq_if (by decide)] at h
    split at h
    case isTrue => exact Nat.digitChar_eq_zero.mp (Option.some.inj h)
    case isFalse hlt =>
      -- the digits of a tenth stand in front
      rw [List.head?_append, List.head?_eq_some_head Nat.toDigits_ne_nil, Option.some_or,
        ← List.head?_eq_some_head] at h
      have htenth : n / 10 = 0 := ih (n / 10) (by omega) h
      omega

end Decimal

end InvoiceFields
