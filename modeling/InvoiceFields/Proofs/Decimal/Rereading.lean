import InvoiceFields.Decimal.Reader
import InvoiceFields.Proofs.Text.Blanks

/-!
# Decimals that are written

A decimal is read again from its text (`Decimal.read?_text`): its digits are those of the
coefficient, all of which have room, and as many of them stand behind the point as the scale says.
-/

namespace InvoiceFields.Decimal

open Text (isAsciiDigit digitValue)

variable {ds rest : List Char} {n scale : Nat}

/-! ### Digits -/

/-- Digits in front of the point are appended as long as the number has room. -/
theorem readDigits?_whole : ∀ {ds : List Char} {n : Nat} {started : Bool},
    (∀ c ∈ ds, isAsciiDigit c = true) →
      ds.foldl (fun n c => n * 10 + digitValue c) n < twoTo 96 →
      readDigits? started false n 0 (ds ++ rest) =
        readDigits? (started || !ds.isEmpty) false
          (ds.foldl (fun n c => n * 10 + digitValue c) n) 0 rest
  | [], _, started, _, _ => by cases started <;> rfl
  | c :: cs, n, started, hall, hlt => by
    obtain ⟨hc, hcs⟩ := List.forall_mem_cons.mp hall
    rw [List.foldl_cons] at hlt
    have hroom : n * 10 + digitValue c < twoTo 96 :=
      Nat.lt_of_le_of_lt (Text.le_foldl_digitValue cs _) hlt
    rw [List.cons_append, readDigits?, if_pos hc, if_pos ⟨hroom, by decide⟩,
      if_neg Bool.false_ne_true, readDigits?_whole hcs hlt, Bool.true_or, List.isEmpty_cons,
      Bool.not_false, Bool.or_true, List.foldl_cons]

/-- Digits behind the point are appended and counted. -/
theorem readDigits?_fraction : ∀ {ds : List Char} {n scale : Nat},
    (∀ c ∈ ds, isAsciiDigit c = true) →
      ds.foldl (fun n c => n * 10 + digitValue c) n < twoTo 96 → scale + ds.length ≤ 28 →
      readDigits? true true n scale (ds ++ rest) =
        readDigits? true true (ds.foldl (fun n c => n * 10 + digitValue c) n)
          (scale + ds.length) rest
  | [], _, _, _, _, _ => rfl
  | c :: cs, n, scale, hall, hlt, hplaces => by
    obtain ⟨hc, hcs⟩ := List.forall_mem_cons.mp hall
    rw [List.foldl_cons] at hlt
    rw [List.length_cons] at hplaces
    have hroom : n * 10 + digitValue c < twoTo 96 :=
      Nat.lt_of_le_of_lt (Text.le_foldl_digitValue cs _) hlt
    rw [List.cons_append, readDigits?, if_pos hc, if_pos ⟨hroom, by omega⟩, if_pos rfl,
      readDigits?_fraction hcs hlt (by omega), List.foldl_cons, List.length_cons, Nat.add_assoc,
      Nat.add_comm 1]

/-- A number with a point is that of all its digits. -/
theorem readDigits?_pointed {whole fraction : List Char} (hne : whole ≠ [])
    (hwhole : ∀ c ∈ whole, isAsciiDigit c = true)
    (hfraction : ∀ c ∈ fraction, isAsciiDigit c = true)
    (hfits : Text.digitsValue (whole ++ fraction) < twoTo 96) (hplaces : fraction.length ≤ 28) :
    readDigits? false false 0 0 (whole ++ '.' :: (fraction ++ rest)) =
      readDigits? true true (Text.digitsValue (whole ++ fraction)) fraction.length rest := by
  rw [Text.digitsValue, List.foldl_append] at hfits ⊢
  have hstarted : (false || !whole.isEmpty) = true := by
    rw [List.isEmpty_eq_false_iff.mpr hne]
    rfl
  rw [readDigits?_whole hwhole (Nat.lt_of_le_of_lt (Text.le_foldl_digitValue _ _) hfits), hstarted]
  -- the point itself changes nothing but that digits are counted
  show readDigits? true true _ 0 (fraction ++ rest) = _
  rw [readDigits?_fraction hfraction hfits (by omega), Nat.zero_add]

/-- A number without a point is that of its digits. -/
theorem readDigits?_digits {whole : List Char} (hne : whole ≠ [])
    (hwhole : ∀ c ∈ whole, isAsciiDigit c = true) (hfits : Text.digitsValue whole < twoTo 96) :
    readDigits? false false 0 0 whole = some (Text.digitsValue whole, 0) := by
  rw [← List.append_nil whole, readDigits?_whole hwhole hfits,
    List.isEmpty_eq_false_iff.mpr hne, List.append_nil]
  rfl

/-! ### Signs and exponents -/

/-- A sign in front of a digit is split off. -/
theorem splitSign_append {sign : List Char} (hsign : sign ∈ [[], ['+'], ['-']])
    (hdigit : ∀ c, ds.head? = some c → isAsciiDigit c = true) :
    splitSign (sign ++ ds) = (decide (sign = ['-']), ds) := by
  simp only [List.mem_cons, List.not_mem_nil, or_false] at hsign
  rcases hsign with rfl | rfl | rfl
  · -- a digit is no sign
    rw [List.nil_append, splitSign]
    · rfl
    · rintro _ rfl
      exact nomatch hdigit _ rfl
    · rintro _ rfl
      exact nomatch hdigit _ rfl
  · rfl
  · rfl

theorem not_exponent_of_isAsciiDigit {c : Char} (h : isAsciiDigit c = true) :
    (c != 'e' && c != 'E') = true := by
  rw [Bool.and_eq_true, bne_iff_ne, bne_iff_ne]
  constructor <;> rintro rfl <;> exact nomatch h

/-- A text without the letter of an exponent is a plain number. -/
theorem readChars?_eq_readPlain? {cs : List Char}
    (h : ∀ c ∈ cs, (c != 'e' && c != 'E') = true) : readChars? cs = readPlain? cs := by
  rw [readChars?, Text.dropWhile_eq_nil h]

/-! ### Texts -/

/-- Zeros in front do not count. -/
theorem digitsValue_padLeft (width : Nat) (ds : List Char) :
    Text.digitsValue (padLeft width ds) = Text.digitsValue ds := by
  have hzeros : ∀ k, (List.replicate k '0').foldl (fun n c => n * 10 + digitValue c) 0 = 0 := by
    intro k
    induction k with
    | zero => rfl
    | succ k ih => exact ih
  rw [padLeft, Text.digitsValue, List.foldl_append, hzeros, Text.digitsValue]

variable (d : Decimal)

theorem isAsciiDigit_of_mem_allDigits {c : Char} (h : c ∈ d.allDigits) : isAsciiDigit c = true := by
  rw [allDigits, padLeft] at h
  rcases List.mem_append.mp h with h | h
  · rw [List.eq_of_mem_replicate h]
    rfl
  · exact isAsciiDigit_of_mem_digits h

/-- There is a digit in front of the fraction. -/
theorem scale_lt_length_allDigits : d.scale < d.allDigits.length := by
  rw [allDigits, padLeft, List.length_append, List.length_replicate]
  omega

theorem wholeDigits_ne_nil : d.wholeDigits ≠ [] := by
  have hlength := d.scale_lt_length_allDigits
  refine List.length_pos_iff.mp ?_
  rw [wholeDigits, List.length_take]
  omega

theorem isAsciiDigit_of_mem_wholeDigits {c : Char} (h : c ∈ d.wholeDigits) :
    isAsciiDigit c = true :=
  d.isAsciiDigit_of_mem_allDigits (List.mem_of_mem_take h)

theorem isAsciiDigit_of_mem_fractionDigits {c : Char} (h : c ∈ d.fractionDigits) :
    isAsciiDigit c = true :=
  d.isAsciiDigit_of_mem_allDigits (List.mem_of_mem_drop h)

/-- Behind the point stand as many digits as the scale says. -/
theorem length_fractionDigits : d.fractionDigits.length = d.scale := by
  have hlength := d.scale_lt_length_allDigits
  rw [fractionDigits, List.length_drop]
  omega

/-- The digits of a decimal stand for its coefficient. -/
theorem digitsValue_append_parts :
    Text.digitsValue (d.wholeDigits ++ d.fractionDigits) = d.magnitude := by
  rw [wholeDigits, fractionDigits, List.take_append_drop, allDigits, digitsValue_padLeft,
    digitsValue_digits]

/-- The digits of a decimal are read as its coefficient and its scale. -/
theorem readDigits?_parts :
    readDigits? false false 0 0
      (d.wholeDigits ++ if d.scale = 0 then [] else '.' :: d.fractionDigits) =
        some (d.magnitude, d.scale) := by
  have hwhole : ∀ c ∈ d.wholeDigits, isAsciiDigit c = true := fun _ =>
    d.isAsciiDigit_of_mem_wholeDigits
  have hfraction : ∀ c ∈ d.fractionDigits, isAsciiDigit c = true := fun _ =>
    d.isAsciiDigit_of_mem_fractionDigits
  have hplaces := d.length_fractionDigits
  have hvalue := d.digitsValue_append_parts
  have hfits : Text.digitsValue (d.wholeDigits ++ d.fractionDigits) < twoTo 96 :=
    hvalue ▸ d.coefficient_lt
  split
  case isTrue hscale =>
    have hnil : d.fractionDigits = [] := List.eq_nil_of_length_eq_zero (hplaces.trans hscale)
    rw [hnil, List.append_nil] at hvalue hfits
    rw [List.append_nil, readDigits?_digits d.wholeDigits_ne_nil hwhole hfits, hvalue, hscale]
  case isFalse =>
    rw [← List.append_nil d.fractionDigits, readDigits?_pointed d.wholeDigits_ne_nil hwhole
      hfraction hfits (hplaces ▸ d.scale_le), hvalue, hplaces]
    rfl

/-- The sign of a decimal is split off. -/
theorem splitSign_chars : splitSign d.chars =
    (d.isNegative, d.wholeDigits ++ if d.scale = 0 then [] else '.' :: d.fractionDigits) := by
  have hdigit : ∀ c, (d.wholeDigits ++ if d.scale = 0 then [] else '.' :: d.fractionDigits).head? =
      some c → isAsciiDigit c = true := by
    obtain ⟨c, cs, hcons⟩ := List.exists_cons_of_ne_nil d.wholeDigits_ne_nil
    rw [hcons]
    rintro _ ⟨⟩
    exact d.isAsciiDigit_of_mem_wholeDigits (hcons ▸ List.mem_cons_self)
  rw [chars, List.append_assoc]
  cases d.isNegative with
  | true => exact splitSign_append (by decide) hdigit
  | false => exact splitSign_append (by decide) hdigit

/-- A decimal is written in digits, with a sign and a point. -/
theorem mem_chars {c : Char} (h : c ∈ d.chars) :
    isAsciiDigit c = true ∨ c = '-' ∨ c = '.' := by
  rw [chars, List.append_assoc] at h
  rcases List.mem_append.mp h with hsign | h
  · split at hsign
    case isTrue => exact .inr (.inl (List.mem_singleton.mp hsign))
    case isFalse => exact nomatch hsign
  · rcases List.mem_append.mp h with hwhole | h
    · exact .inl (d.isAsciiDigit_of_mem_wholeDigits hwhole)
    · split at h
      case isTrue => exact nomatch h
      case isFalse =>
        rcases List.mem_cons.mp h with rfl | hfraction
        · exact .inr (.inr rfl)
        · exact .inl (d.isAsciiDigit_of_mem_fractionDigits hfraction)

/-- A decimal is written without blanks. -/
theorem isBlank_of_mem_chars {c : Char} (h : c ∈ d.chars) : Text.isBlank c = false := by
  rcases d.mem_chars h with hdigit | rfl | rfl
  · exact Text.isBlank_of_isAsciiDigit hdigit
  · rfl
  · rfl

/-- The digits, the sign and the point are no exponent. -/
theorem not_exponent_of_mem_chars (c : Char) (h : c ∈ d.chars) :
    (c != 'e' && c != 'E') = true := by
  rcases d.mem_chars h with hdigit | rfl | rfl
  · exact not_exponent_of_isAsciiDigit hdigit
  · rfl
  · rfl

/-- A written decimal ends in a digit. -/
theorem exists_getLast?_chars : ∃ c, d.chars.getLast? = some c ∧ isAsciiDigit c = true := by
  have hend : ∀ {front ds : List Char}, ds ≠ [] → (∀ c ∈ ds, isAsciiDigit c = true) →
      ∃ c, (front ++ ds).getLast? = some c ∧ isAsciiDigit c = true := by
    intro front ds hne hds
    refine ⟨ds.getLast hne, ?_, hds _ (List.getLast_mem hne)⟩
    rw [List.getLast?_append, List.getLast?_eq_some_getLast hne, Option.some_or]
  rw [chars]
  by_cases hscale : d.scale = 0
  · rw [if_pos hscale, List.append_nil]
    exact hend d.wholeDigits_ne_nil fun _ => d.isAsciiDigit_of_mem_wholeDigits
  · have hne : d.fractionDigits ≠ [] := by
      rw [← List.length_pos_iff, d.length_fractionDigits]
      exact Nat.pos_of_ne_zero hscale
    rw [if_neg hscale, List.append_cons]
    exact hend hne fun _ => d.isAsciiDigit_of_mem_fractionDigits

/-- **Written decimals.** A decimal is read from its text, with the same scale. -/
theorem read?_text : read? d.text = some d := by
  have hplain : readPlain? d.chars = some d := by
    have hsigned : signed d.isNegative d.magnitude = d.coefficient := signed_natAbs d.coefficient
    rw [readPlain?, splitSign_chars]
    dsimp only
    rw [readDigits?_parts]
    show ofParts? (signed d.isNegative d.magnitude) d.scale = some d
    rw [hsigned]
    exact dif_pos ⟨d.coefficient_lt, d.scale_le⟩
  rw [read?, text, String.toList_ofList, readChars?_eq_readPlain? d.not_exponent_of_mem_chars]
  exact hplain

end InvoiceFields.Decimal
