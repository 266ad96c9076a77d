import InvoiceFields.Proofs.Decimal.Numerals
import InvoiceFields.Proofs.Text.Blanks
import InvoiceFields.Record.Rule

/-!
# Segments that are written and read

A segment that is read from a text (`Segment.IsRead`) is read again from its own text
(`Segment.ofText_text`). In JSON a token is written as the signed number of its 64 bits. So one
beyond `2 ^ 63` is read as a text that describes no segment, and every other segment is read as it
was (`Segment.ofJson?_toJson`).
-/

namespace InvoiceFields

namespace Text

theorem ne_of_isAsciiDigit {c d : Char} (h : isAsciiDigit c = true) (hd : isAsciiDigit d = false) :
    c ≠ d := fun heq => Bool.false_ne_true (hd.symm.trans (heq ▸ h))

end Text

namespace Segment

open Text (trimChars)

variable {s : Segment} {i : Int} {k first last : Nat} {cs : List Char}

/-! ### Texts -/

/-- A segment that some text describes, or a text without blanks at its ends that describes
none. -/
def IsRead : Segment → Prop
  | token k => 0 < k ∧ k < twoTo 64
  | range first last => first < twoTo 64 ∧ last < twoTo 64
  | invalid raw => trimChars raw.toList = raw.toList ∧ read? raw.toList = none

/-- A number is read from its digits. -/
theorem readIndex?_digits (h : k < twoTo 64) : readIndex? (Decimal.digits k) = some k := by
  have hplus : ∀ cs, Decimal.digits k ≠ '+' :: cs := by
    intro cs hcs
    have hmem : '+' ∈ Decimal.digits k := hcs ▸ List.mem_cons_self
    exact nomatch Decimal.isAsciiDigit_of_mem_digits hmem
  rw [readIndex?]
  · rw [Decimal.readNat?_digits, Option.filter_some, decide_eq_true h]
    rfl
  · exact hplus

theorem lt_of_readIndex?_eq_some (h : readIndex? cs = some k) : k < twoTo 64 := by
  unfold readIndex? at h
  obtain ⟨-, hlt⟩ := Option.filter_eq_some_iff.mp h
  exact of_decide_eq_true hlt

/-- What a text describes is a segment of numbers of 64 bits. -/
theorem isRead_of_read?_eq_some (h : read? cs = some s) : s.IsRead := by
  rw [read?] at h
  split at h
  case h_1 a b hsplit =>
    obtain ⟨first, hfirst, h⟩ := Option.bind_eq_some_iff.mp h
    obtain ⟨last, hlast, h⟩ := Option.bind_eq_some_iff.mp h
    cases h
    exact ⟨lt_of_readIndex?_eq_some hfirst, lt_of_readIndex?_eq_some hlast⟩
  case h_2 =>
    obtain ⟨k, hk, rfl⟩ := Option.map_eq_some_iff.mp h
    obtain ⟨hread, hpos⟩ := Option.filter_eq_some_iff.mp hk
    exact ⟨of_decide_eq_true hpos, lt_of_readIndex?_eq_some hread⟩

theorem isRead_ofText (text : String) : (ofText text).IsRead := by
  rw [ofText]
  cases h : read? (trimChars text.toList) with
  | none =>
    rw [Option.getD_none, IsRead, String.toList_ofList, Text.trimChars_trimChars]
    exact ⟨rfl, h⟩
  | some s => exact isRead_of_read?_eq_some h

theorem trimChars_digits (n : Nat) : trimChars (Decimal.digits n) = Decimal.digits n :=
  Text.trimChars_eq_self fun _ hc =>
    Text.isBlank_of_isAsciiDigit (Decimal.isAsciiDigit_of_mem_digits hc)

/-- No digit is a dash. -/
theorem ne_dash_of_mem_digits {c : Char} {n : Nat} (h : c ∈ Decimal.digits n) :
    (c == '-') = false :=
  beq_false_of_ne (Text.ne_of_isAsciiDigit (Decimal.isAsciiDigit_of_mem_digits h) rfl)

/-- A segment that was read is read again from its text. -/
theorem ofText_text (h : s.IsRead) : ofText s.text = s := by
  cases s with
  | token k =>
    obtain ⟨hpos, hlt⟩ := h
    have hread : read? (Decimal.digits k) = some (token k) := by
      rw [read?, Text.splitOnce?_eq_none fun c => ne_dash_of_mem_digits, readIndex?_digits hlt]
      dsimp only
      rw [Option.filter_some, decide_eq_true hpos]
      rfl
    rw [ofText, text, Decimal.countText, String.toList_ofList, trimChars_digits, hread,
      Option.getD_some]
  | range first last =>
    obtain ⟨hfirst, hlast⟩ := h
    have hchars : (range first last).text.toList =
        Decimal.digits first ++ '-' :: Decimal.digits last := by
      rw [text, String.toList_append, String.toList_append, Decimal.countText, Decimal.countText,
        String.toList_ofList, String.toList_ofList, String.toList_ofList, List.append_assoc]
      rfl
    have hdash : Text.isBlank '-' = false := by decide
    have htrim : trimChars (Decimal.digits first ++ '-' :: Decimal.digits last) =
        Decimal.digits first ++ '-' :: Decimal.digits last := by
      refine Text.trimChars_eq_self fun c hc => ?_
      rcases List.mem_append.mp hc with hc | hc
      · exact Text.isBlank_of_isAsciiDigit (Decimal.isAsciiDigit_of_mem_digits hc)
      · rcases List.mem_cons.mp hc with rfl | hc
        · exact hdash
        · exact Text.isBlank_of_isAsciiDigit (Decimal.isAsciiDigit_of_mem_digits hc)
    have hread : read? (Decimal.digits first ++ '-' :: Decimal.digits last) =
        some (range first last) := by
      rw [read?, Text.splitOnce?_append (fun c => ne_dash_of_mem_digits) rfl]
      dsimp only
      rw [trimChars_digits, trimChars_digits, readIndex?_digits hfirst, readIndex?_digits hlast]
      rfl
    rw [ofText, hchars, htrim, hread, Option.getD_some]
  | invalid raw =>
    obtain ⟨htrim, hread⟩ := h
    rw [ofText, text, htrim, hread, Option.getD_none, String.ofList_toList]

/-! ### JSON -/

/-- A number that describes no segment: one that is not above zero. -/
theorem isRead_invalid_integer (h : i ≤ 0) : (invalid (Decimal.integerText i)).IsRead := by
  rw [IsRead, Decimal.integerText, String.toList_ofList, Decimal.integerChars]
  split
  case isTrue =>
    refine ⟨?_, ?_⟩
    · refine Text.trimChars_eq_self fun c hc => ?_
      rcases List.mem_cons.mp hc with rfl | hc
      · decide
      · exact Text.isBlank_of_isAsciiDigit (Decimal.isAsciiDigit_of_mem_digits hc)
    · -- nothing stands in front of the sign
      have hsplit := Text.splitOnce?_append (p := (· == '-')) (a := [])
        (b := Decimal.digits i.natAbs) (fun _ h => nomatch h) (by decide : ('-' == '-') = true)
      rw [List.nil_append] at hsplit
      rw [read?, hsplit]
      rfl
  case isFalse hzero =>
    obtain rfl : i = 0 := by omega
    exact ⟨by decide, by decide⟩

theorem isRead_of_ofJson?_eq_some {j : Json} (h : ofJson? j = some s) : s.IsRead := by
  unfold ofJson? at h
  split at h
  case h_1 i =>
    have hpowers : twoTo 64 = 2 * twoTo 63 := rfl
    split at h
    case isTrue => exact nomatch h
    case isFalse hlt =>
      split at h
      case isTrue hpos =>
        cases h
        exact ⟨by omega, by omega⟩
      case isFalse hneg =>
        cases h
        exact isRead_invalid_integer (by omega)
  case h_2 text =>
    cases h
    exact isRead_ofText text
  case h_3 => exact nomatch h

/-- The segment that is read in place of one that was written in JSON. -/
def reloaded : Segment → Segment
  | token k => if k < twoTo 63 then token k else invalid (Decimal.integerText (signed k))
  | s => s

theorem reloaded_eq_self : s.reloaded = s ↔ ∀ k, s = token k → k < twoTo 63 := by
  cases s with
  | token k =>
    rw [reloaded]
    split
    case isTrue h => exact iff_of_true rfl fun _ heq => by cases heq; exact h
    case isFalse h => exact iff_of_false nofun fun hall => h (hall k rfl)
  | range first last => exact iff_of_true rfl nofun
  | invalid raw => exact iff_of_true rfl nofun

/-- The signed number of 64 bits is the number itself below `2 ^ 63` and negative from there on. -/
theorem signed_eq (h : k < twoTo 64) :
    signed k = if k < twoTo 63 then (k : Int) else (k : Int) - twoTo 64 := by
  have hpowers : twoTo 64 = 2 * twoTo 63 := rfl
  have hmod : (k : Int) % (twoTo 64 : Nat) = k := Int.emod_eq_of_lt (by omega) (by omega)
  rw [signed, Int.bmod_def, hmod]
  split <;> split <;> omega

theorem ofJson?_toJson (h : s.IsRead) : ofJson? s.toJson = some s.reloaded := by
  cases s with
  | token k =>
    obtain ⟨hpos, hlt⟩ := h
    have hpowers : twoTo 64 = 2 * twoTo 63 := rfl
    rw [toJson, Json.ofInt, ofJson?, reloaded, signed_eq hlt]
    by_cases hk : k < twoTo 63
    · rw [if_pos hk, if_pos hk, if_neg (by omega), if_pos (by omega), Int.toNat_natCast]
    · rw [if_neg hk, if_neg hk, if_neg (by omega), if_neg (by omega)]
  | range first last => exact congrArg some (ofText_text h)
  | invalid raw => exact congrArg some (ofText_text h)

end Segment

end InvoiceFields
