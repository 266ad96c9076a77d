import InvoiceFields.Proofs.Text.Bytes
import InvoiceFields.TaxId

/-!
# Checking the control character of a tax identifier

The number of an identifier and its control character are told apart by bytes. `checkControl`
answers when the identifier can be divided behind its first and its eighth byte
(`checkControl_eq_error`), and `Divided` are the identifiers for which `validate` has no answer.
-/

namespace InvoiceFields.TaxId

open Text (EndsAt)

/-! ### Dividing by bytes -/

/-- A division behind `n` bytes is one whose first part has `n` bytes. -/
theorem splitAtByte?_eq_some {n : Nat} {cs a b : List Char} :
    splitAtByte? n cs = some (a, b) ↔ cs = a ++ b ∧ Text.byteLength a = n := by
  fun_induction splitAtByte? n cs generalizing a with
  | case1 cs =>
    rw [Text.byteLength_eq_zero, Option.some_inj, Prod.mk.injEq]
    constructor
    · rintro ⟨rfl, rfl⟩
      exact ⟨rfl, rfl⟩
    · rintro ⟨rfl, rfl⟩
      exact ⟨rfl, rfl⟩
  | case2 n hn =>
    refine ⟨(nomatch ·), fun ⟨h, hlen⟩ => ?_⟩
    obtain ⟨rfl, rfl⟩ := List.append_eq_nil_iff.mp h.symm
    exact absurd hlen.symm hn
  | case3 n c cs hwide =>
    refine ⟨(nomatch ·), fun ⟨h, hlen⟩ => ?_⟩
    cases a with
    | nil => exact nomatch hlen
    | cons d a =>
      obtain ⟨rfl, -⟩ := List.cons_eq_cons.mp h
      rw [Text.byteLength] at hlen
      omega
  | case4 n c cs hwide ih =>
    simp only [Option.map_eq_some_iff, Prod.exists, Prod.mk.injEq]
    constructor
    · rintro ⟨a, b', hsplit, rfl, rfl⟩
      obtain ⟨rfl, hlen⟩ := ih.mp hsplit
      refine ⟨rfl, ?_⟩
      rw [Text.byteLength]
      omega
    · rintro ⟨h, hlen⟩
      cases a with
      | nil => exact nomatch hlen
      | cons d a =>
        obtain ⟨rfl, rfl⟩ := List.cons_eq_cons.mp h
        rw [Text.byteLength] at hlen
        exact ⟨a, b, ih.mpr ⟨rfl, by omega⟩, rfl, rfl⟩

theorem splitAtByte?_eq_none {n : Nat} {cs : List Char} :
    splitAtByte? n cs = none ↔ ¬ EndsAt n cs := by
  rw [Option.eq_none_iff_forall_ne_some]
  exact ⟨fun h ⟨a, b, hab⟩ => h (a, b) (splitAtByte?_eq_some.mpr hab),
    fun h ⟨a, b⟩ hab => h ⟨a, b, splitAtByte?_eq_some.mp hab⟩⟩

/-! ### Control characters -/

theorem utf8Size_of_foreignerDigit? {c digit : Char} (h : foreignerDigit? c = some digit) :
    c.utf8Size = 1 := by
  rw [foreignerDigit?] at h
  split at h
  case isTrue hc => rw [hc]; rfl
  case isFalse =>
    split at h
    case isTrue hc => rw [hc]; rfl
    case isFalse =>
      split at h
      case isTrue hc => rw [hc]; rfl
      case isFalse => exact nomatch h

/-- Checking a control character breaks down when the text cannot be divided behind its first and
its eighth byte. -/
theorem checkControl_eq_error {cs : List Char} {fault : Breakdown} :
    checkControl cs = .error fault ↔
      fault = .dividedCharacter ∧ ¬ (EndsAt 1 cs ∧ EndsAt 8 cs) := by
  cases hsplit : splitAtByte? 8 cs with
  | none =>
    have hends : ¬ EndsAt 8 cs := splitAtByte?_eq_none.mp hsplit
    simp [checkControl, hsplit, hends, eq_comm]
  | some parts =>
    obtain ⟨number, rest⟩ := parts
    have hends : EndsAt 8 cs := ⟨number, rest, splitAtByte?_eq_some.mp hsplit⟩
    cases cs with
    | nil => exact nomatch hsplit
    | cons kind tail =>
      simp only [checkControl, hsplit, Text.endsAt_one_cons]
      split
      case isTrue h => simp [Text.utf8Size_of_isAsciiDigit h, hends]
      case isFalse =>
        split
        case h_1 digit h => simp [utf8Size_of_foreignerDigit? h, hends]
        case h_2 =>
          split
          case isTrue h => simp [h, hends]
          case isFalse h => simp [h, eq_comm]

/-- An identifier that cannot be divided behind its first and its eighth byte. -/
def Divided (raw : String) : Prop :=
  isTaxId raw = true ∧
    ¬ (EndsAt 1 (normalizeChars raw.toList) ∧ EndsAt 8 (normalizeChars raw.toList))

theorem validate_eq_error {raw : String} {fault : Breakdown} :
    validate raw = .error fault ↔ fault = .dividedCharacter ∧ Divided raw := by
  rw [validate, Divided]
  split
  case isTrue h => rw [checkControl_eq_error, h]; simp
  case isFalse h => simp [h]

end InvoiceFields.TaxId
