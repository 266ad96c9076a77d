import InvoiceFields.Proofs.Amount.Currency
import InvoiceFields.Proofs.Decimal.Pointed
import InvoiceFields.Proofs.Text.Blanks

/-!
# Reading an amount

What surrounds a number and what is padding in it does not count: between fringes nothing but the
characters of the number are left (`bare_eq`). The last separator among them becomes the point, and
those of the other kind are dropped (`canonical_eq`). So a number is read like its digits with one
point (`normalizeChars?_eq`), unless its last separator stands more than once.
-/

namespace InvoiceFields.Amount

open Text (isAsciiDigit isBlank isDecimalDigit)

variable {before body after back front sign whole : List Char} {c s : Char} {cs : List Char}

/-! ### Padding -/

/-- The characters of a text that count. -/
def kept (cs : List Char) : List Char := cs.filter fun c => !isPadding c

theorem kept_append (cs ds : List Char) : kept (cs ++ ds) = kept cs ++ kept ds :=
  List.filter_append ..

theorem kept_eq_self (h : ∀ c ∈ cs, isPadding c = false) : kept cs = cs :=
  List.filter_eq_self.mpr fun c hc => by rw [h c hc]; rfl

theorem kept_eq_nil (h : ∀ c ∈ cs, isPadding c = true) : kept cs = [] :=
  List.filter_eq_nil_iff.mpr fun c hc => by rw [h c hc]; decide

theorem isPadding_of_isDecimalDigit (h : isDecimalDigit c = true) : isPadding c = false := by
  have hall : ∀ c ∈ decoration, isDecimalDigit c = false := by decide
  rw [isPadding, Text.isBlank_of_isDecimalDigit h, Bool.false_or]
  refine Bool.eq_false_iff.mpr fun hc => ?_
  exact not_mem_of_forall_eq_false hall h (List.contains_iff_mem.mp hc)

theorem isPadding_of_isSeparator (h : isSeparator c = true) : isPadding c = false := by
  rw [isSeparator, Bool.or_eq_true, beq_iff_eq, beq_iff_eq] at h
  rcases h with rfl | rfl <;> decide

theorem isSeparator_of_isAsciiDigit (h : isAsciiDigit c = true) : isSeparator c = false := by
  refine Bool.eq_false_iff.mpr fun hs => ?_
  rw [isSeparator, Bool.or_eq_true, beq_iff_eq, beq_iff_eq] at hs
  rcases hs with rfl | rfl <;> exact nomatch h

/-- No letter of a currency is a digit. -/
theorem not_mem_currencyLetters_of_isDecimalDigit (h : isDecimalDigit c = true) :
    c ∉ currencyLetters := by
  have hall : ∀ c ∈ currencyLetters, isDecimalDigit c = false := by decide
  exact not_mem_of_forall_eq_false hall h

/-- Behind a digit there is nothing to drop. -/
theorem getLast?_kept (h : cs.getLast? = some c) (hc : isPadding c = false) :
    (kept cs).getLast? = some c := by
  obtain ⟨init, rfl⟩ := List.getLast?_eq_some_iff.mp h
  rw [kept_append, kept_eq_self (List.forall_mem_singleton.mpr hc), List.getLast?_concat]

/-- **What is left of an amount.** Between fringes the characters of a number are left that are no
padding. -/
theorem bare_eq (hbefore : Fringe isPadding before) (hbody : ∀ c ∈ body, c ∉ currencyLetters)
    (hafter : Fringe isMargin after)
    (hlast : ∀ c, (kept body).getLast? = some c → isSeparator c = false) :
    bare (before ++ body ++ after) = kept body := by
  obtain ⟨left, right, hleft, hright, herase⟩ := exists_erase_fringes
    (fun _ => not_mem_currencyLetters_of_isPadding)
    (fun _ => not_mem_currencyLetters_of_isMargin) hbefore hbody hafter
  have hkept : ∀ cs : List Char,
      (cs.filter fun c => !isBlank c && !decoration.contains c) = kept cs := by
    intro cs
    refine List.filter_congr fun c _ => ?_
    rw [isPadding, Bool.not_or]
  -- of the margin behind the number separators may be left
  have hseparators : ∀ c ∈ kept right, isSeparator c = true := by
    intro c hc
    obtain ⟨hc, hkeep⟩ := List.mem_filter.mp hc
    have hmargin := hright c hc
    rwa [isMargin, (Bool.not_eq_true' _).mp hkeep, Bool.false_or] at hmargin
  rw [bare, herase, hkept, kept_append, kept_append, kept_eq_nil hleft, List.nil_append]
  rw [Text.dropEndWhile_append hlast, Text.dropEndWhile_eq_nil hseparators, List.append_nil]

/-! ### Separators -/

/-- A text without separators stays as it is. -/
theorem canonical_eq_self (h : ∀ c ∈ cs, isSeparator c = false) : canonical cs = cs := by
  have hcomma : cs.contains ',' = false := by
    refine Bool.eq_false_iff.mpr fun hmem => ?_
    exact not_mem_of_forall_eq_false h rfl (List.contains_iff_mem.mp hmem)
  rw [canonical, hcomma]
  rfl

/-- The last separator becomes the point, and so do the others of its kind. -/
theorem canonical_eq (hs : isSeparator s = true) (hback : ∀ c ∈ back, isSeparator c = false) :
    canonical (front ++ s :: back) =
      ((front.filter fun c => !isSeparator c || c == s).map fun c => if c = s then '.' else c) ++
        '.' :: back := by
  have hfind : (front ++ s :: back).reverse.find? isSeparator = some s := by
    rw [List.reverse_append, List.reverse_cons, List.append_assoc, List.find?_append,
      List.find?_eq_none.mpr fun c hc => by
        rw [hback c (List.mem_reverse.mp hc)]; exact Bool.false_ne_true]
    rw [Option.none_or, List.singleton_append, List.find?_cons_of_pos hs]
  -- the digits behind the last separator are kept as they are
  have hother : ∀ t, isSeparator t = true → ∀ c ∈ back, c ≠ t := fun t ht c hc =>
    ne_of_mem_of_not_mem hc (not_mem_of_forall_eq_false hback ht)
  have hfilter : ∀ t, isSeparator t = true → back.filter (· != t) = back := fun t ht =>
    List.filter_eq_self.mpr fun c hc => bne_iff_ne.mpr (hother t ht c hc)
  have hmap : (back.map fun c => if c = ',' then '.' else c) = back :=
    (List.map_congr_left fun c hc => if_neg (hother ',' rfl c hc)).trans (List.map_id back)
  rw [isSeparator, Bool.or_eq_true, beq_iff_eq, beq_iff_eq] at hs
  rcases hs with rfl | rfl
  · have hkeep : (fun c => !isSeparator c || c == ',') = (· != '.') := by
      funext c
      rcases eq_or_ne c ',' with rfl | hc
      · rfl
      · rw [isSeparator, beq_false_of_ne hc, Bool.false_or, Bool.or_false]
        rfl
    have hcomma : (front ++ ',' :: back).contains ',' = true := by simp
    rw [canonical, hcomma, hfind, hkeep]
    show ((front ++ ',' :: back).filter (· != '.')).map (fun c => if c = ',' then '.' else c) = _
    rw [List.filter_append, List.filter_cons_of_pos (by decide), hfilter '.' rfl, List.map_append,
      List.map_cons, hmap]
    rfl
  · have hkeep : (fun c => !isSeparator c || c == '.') = (· != ',') := by
      funext c
      rcases eq_or_ne c '.' with rfl | hc
      · rfl
      · rw [isSeparator, beq_false_of_ne hc, Bool.or_false, Bool.or_false]
        rfl
    have hpoint : (fun c => if c = '.' then '.' else c) = id := by
      funext c
      split
      case isTrue h => exact h.symm
      case isFalse => rfl
    have hcanonical : canonical (front ++ '.' :: back) =
        (front ++ '.' :: back).filter (· != ',') := by
      rw [canonical, hfind]
      split
      case isTrue hcomma =>
        refine (List.filter_eq_self.mpr fun c hc => bne_iff_ne.mpr fun h => ?_).symm
        rw [h, ← List.contains_iff_mem] at hc
        rw [hc] at hcomma
        exact nomatch hcomma
      case isFalse => rfl
    rw [hcanonical, List.filter_append, List.filter_cons_of_pos (by decide), hfilter ',' rfl, hkeep,
      hpoint, List.map_id]

/-- A separator that stands once, behind all others, becomes the point, and those are dropped. -/
theorem canonical_eq_pointed (hs : isSeparator s = true) (hfront : s ∉ front)
    (hback : ∀ c ∈ back, isSeparator c = false) :
    canonical (front ++ s :: back) = (front.filter fun c => !isSeparator c) ++ '.' :: back := by
  have hkeep : (front.filter fun c => !isSeparator c || c == s) =
      front.filter fun c => !isSeparator c :=
    List.filter_congr fun c hc => by
      rw [beq_false_of_ne (ne_of_mem_of_not_mem hc hfront), Bool.or_false]
  have hplain : ((front.filter fun c => !isSeparator c).map fun c => if c = s then '.' else c) =
      front.filter fun c => !isSeparator c :=
    (List.map_congr_left fun c hc =>
      if_neg (ne_of_mem_of_not_mem (List.mem_of_mem_filter hc) hfront)).trans (List.map_id _)
  rw [canonical_eq hs hback, hkeep, hplain]

/-- The sign of a number is kept. -/
theorem canonical_signed (hsign : sign ∈ [[], ['+'], ['-']]) (hs : isSeparator s = true)
    (hfront : s ∉ front) (hback : ∀ c ∈ back, isSeparator c = false) :
    canonical (sign ++ (front ++ s :: back)) =
      sign ++ ((front.filter fun c => !isSeparator c) ++ '.' :: back) := by
  have hplain : ∀ c ∈ sign, isSeparator c = false := Decimal.forall_mem_sign hsign rfl rfl
  have hkeep : (sign.filter fun c => !isSeparator c) = sign :=
    List.filter_eq_self.mpr fun c hc => by rw [hplain c hc]; rfl
  have hall : s ∉ sign ++ front :=
    List.not_mem_append (not_mem_of_forall_eq_false hplain hs) hfront
  rw [← List.append_assoc, canonical_eq_pointed hs hall hback, List.filter_append, hkeep,
    List.append_assoc]

/-- Separators of the last kind all become points. -/
theorem two_le_count_canonical (hs : isSeparator s = true) (hfront : s ∈ front)
    (hback : ∀ c ∈ back, isSeparator c = false) :
    2 ≤ (canonical (front ++ s :: back)).count '.' := by
  have hmem : '.' ∈ (front.filter fun c => !isSeparator c || c == s).map
      fun c => if c = s then '.' else c :=
    List.mem_map.mpr ⟨s, List.mem_filter.mpr ⟨hfront, by simp⟩, if_pos rfl⟩
  rw [canonical_eq hs hback, List.count_append, List.count_cons_self]
  have hpos := List.count_pos_iff.mpr hmem
  omega

/-- The canonical form has no other characters, but for the point. -/
theorem mem_canonical (h : c ∈ canonical cs) : c ∈ cs ∨ c = '.' := by
  rw [canonical] at h
  split at h
  case isTrue => exact .inl h
  case isFalse =>
    split at h
    case h_1 => exact .inl (List.mem_of_mem_filter h)
    case h_2 =>
      obtain ⟨d, hd, rfl⟩ := List.mem_map.mp h
      split
      case isTrue => exact .inr rfl
      case isFalse => exact .inl (List.mem_of_mem_filter hd)

/-! ### Numbers -/

/-- What is read of an amount is the canonical form of its number. -/
theorem normalizeChars?_eq (hbefore : Fringe isPadding before)
    (hbody : ∀ c ∈ body, c ∉ currencyLetters) (hafter : Fringe isMargin after)
    (hlast : ∀ c, (kept body).getLast? = some c → isSeparator c = false)
    (hdigit : ∃ c ∈ kept body, isAsciiDigit c = true) :
    normalizeChars? (before ++ body ++ after) = Decimal.readChars? (canonical (kept body)) := by
  rw [normalizeChars?, bare_eq hbefore hbody hafter hlast]
  exact if_pos (List.any_eq_true.mpr hdigit)

/-- Digits are read as their number, with a margin behind them or not. -/
theorem exists_normalizeChars?_digits (hne : cs ≠ []) (hdigits : ∀ c ∈ cs, isAsciiDigit c = true)
    (hfits : Text.digitsValue cs < twoTo 96) (hafter : Fringe isMargin after) :
    ∃ d, normalizeChars? (cs ++ after) = some d ∧ d.coefficient = Text.digitsValue cs ∧
      d.scale = 0 := by
  have hdecimal : ∀ c ∈ cs, isDecimalDigit c = true := fun c hc =>
    Text.isDecimalDigit_of_isAsciiDigit (hdigits c hc)
  have hkept : kept cs = cs := kept_eq_self fun c hc => isPadding_of_isDecimalDigit (hdecimal c hc)
  have hseparators : ∀ c ∈ cs, isSeparator c = false := fun c hc =>
    isSeparator_of_isAsciiDigit (hdigits c hc)
  have hlast := List.getLast_mem hne
  have hread := normalizeChars?_eq .nil
    (fun c hc => not_mem_currencyLetters_of_isDecimalDigit (hdecimal c hc)) hafter
    (by rw [hkept]; exact fun c hc => hseparators c (List.mem_of_getLast? hc))
    ⟨cs.getLast hne, by rwa [hkept], hdigits _ hlast⟩
  rw [List.nil_append, hkept, canonical_eq_self hseparators] at hread
  have hsign : ([] : List Char) ∈ [[], ['+'], ['-']] := List.mem_cons_self
  rw [hread]
  exact Decimal.exists_readChars?_signed hsign
    (fun c hc => hdigits c (List.mem_of_mem_head? hc))
    (fun c hc => Decimal.not_exponent_of_isAsciiDigit (hdigits c hc))
    (Decimal.readDigits?_digits hne hdigits hfits) hfits (Nat.zero_le 28)

end InvoiceFields.Amount
