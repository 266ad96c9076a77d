import InvoiceFields.Proofs.Amount.Match
import InvoiceFields.Proofs.Amount.Reading

/-!
# Matches that are no numbers

The pattern of amounts takes more texts than are read as numbers: of two kinds of separator either
may mark the decimals, and groups may follow whatever separator there is. A match in ASCII digits
that are not too many is read exactly if its last separator stands once
(`isSome_readChars?_canonical_iff`); the amounts of a line are the matches of that kind that no
percent sign follows (`exists_mem_locate_iff`).
-/

namespace InvoiceFields.Amount

open Decimal (readChars?)
open Text (isAsciiDigit isDecimalDigit)

variable {cs sign tail : List Char} {c d : Char} {hit : Pattern.Match} {line : String}

/-! ### Separators -/

/-- The separators of a text. -/
def separators (cs : List Char) : List Char := cs.filter isSeparator

/-- The last separator of a text, if there is one, stands once. -/
def SeparatesOnce (cs : List Char) : Prop :=
  ∀ s, (separators cs).getLast? = some s → (separators cs).count s = 1

theorem separators_append (cs ds : List Char) :
    separators (cs ++ ds) = separators cs ++ separators ds := List.filter_append ..

theorem separators_eq_nil (h : ∀ c ∈ cs, isSeparator c = false) : separators cs = [] :=
  List.filter_eq_nil_iff.mpr fun c hc => by rw [h c hc]; exact Bool.false_ne_true

/-- Separators are no padding. -/
theorem separators_kept (cs : List Char) : separators (kept cs) = separators cs := by
  rw [separators, kept, List.filter_filter]
  refine List.filter_congr fun c _ => ?_
  cases h : isSeparator c with
  | true => rw [isPadding_of_isSeparator h]; rfl
  | false => rfl

/-- A text is split at the last character of a kind. -/
private theorem exists_last {p : Char → Bool} (h : ∃ c ∈ cs, p c = true) :
    ∃ front s back, cs = front ++ s :: back ∧ p s = true ∧ ∀ c ∈ back, p c = false := by
  induction cs with
  | nil => simp at h
  | cons c cs ih =>
    by_cases hrest : ∃ c ∈ cs, p c = true
    · obtain ⟨front, s, back, rfl, hs, hback⟩ := ih hrest
      exact ⟨c :: front, s, back, rfl, hs, hback⟩
    · have hback : ∀ d ∈ cs, p d = false := fun d hd => Bool.eq_false_iff.mpr fun hp =>
        hrest ⟨d, hd, hp⟩
      obtain ⟨d, hd, hp⟩ := h
      rcases List.mem_cons.mp hd with rfl | hd
      · exact ⟨[], d, cs, rfl, hp, hback⟩
      · exact absurd ⟨d, hd, hp⟩ hrest

/-- The last separator of a text stands once if it does not stand in front of itself. -/
theorem separatesOnce_iff {front back : List Char} {s : Char} (hs : isSeparator s = true)
    (hback : ∀ c ∈ back, isSeparator c = false) :
    SeparatesOnce (front ++ s :: back) ↔ s ∉ front := by
  have hall : separators (front ++ s :: back) = separators front ++ [s] := by
    have hcons : separators (s :: back) = s :: separators back := List.filter_cons_of_pos hs
    rw [separators_append, hcons, separators_eq_nil hback]
  have hmem : s ∈ separators front ↔ s ∈ front := by
    rw [separators, List.mem_filter, and_iff_left hs]
  rw [SeparatesOnce, hall, List.getLast?_concat, ← hmem, ← List.count_eq_zero]
  simp [List.count_append]

/-! ### Readable numbers -/

/-- What is written with digits, separators and a sign has no exponent. -/
private theorem not_exponent (hsign : sign ∈ [[], ['+'], ['-']])
    (hcs : ∀ c ∈ cs, isAsciiDigit c = true ∨ isSeparator c = true) :
    ∀ c ∈ canonical (sign ++ cs), (c != 'e' && c != 'E') = true := by
  have hplain : ∀ c ∈ sign, (c != 'e' && c != 'E') = true := Decimal.forall_mem_sign hsign rfl rfl
  have hseparator : ∀ c, isSeparator c = true → (c != 'e' && c != 'E') = true := by
    intro c hc
    rw [isSeparator, Bool.or_eq_true, beq_iff_eq, beq_iff_eq] at hc
    rcases hc with rfl | rfl <;> rfl
  intro c hc
  rcases mem_canonical hc with hc | rfl
  · rcases List.mem_append.mp hc with hc | hc
    · exact hplain c hc
    · exact (hcs c hc).elim Decimal.not_exponent_of_isAsciiDigit (hseparator c)
  · rfl

/-- With one point among at most 28 digits a number is read. -/
private theorem exists_readChars?_once {front back : List Char} {s : Char}
    (hsign : sign ∈ [[], ['+'], ['-']]) (hs : isSeparator s = true) (honce : s ∉ front)
    (hfront : ∀ c ∈ front, isAsciiDigit c = true ∨ isSeparator c = true)
    (hfirst : ∃ c ∈ front, isAsciiDigit c = true) (hback : ∀ c ∈ back, isAsciiDigit c = true)
    (hcount : front.countP isAsciiDigit + back.length ≤ 28) :
    ∃ e, readChars? (canonical (sign ++ (front ++ s :: back))) = some e := by
  have hwhole : (front.filter fun c => !isSeparator c) = front.filter isAsciiDigit := by
    refine List.filter_congr fun c hc => ?_
    rcases hfront c hc with hd | hs
    · rw [isSeparator_of_isAsciiDigit hd, hd]
      rfl
    · have hd : isAsciiDigit c = false := Bool.eq_false_iff.mpr fun hd => by
        rw [isSeparator_of_isAsciiDigit hd] at hs
        exact nomatch hs
      rw [hs, hd]
      rfl
  obtain ⟨c, hc, hd⟩ := hfirst
  obtain ⟨e, he, -⟩ := Decimal.exists_readChars?_pointed hsign
    (List.ne_nil_of_mem (List.mem_filter.mpr ⟨hc, hd⟩))
    (fun c hc => (List.mem_filter.mp hc).2) hback (by rwa [← List.countP_eq_length_filter])
  refine ⟨e, ?_⟩
  rw [canonical_signed hsign hs honce fun c hc => isSeparator_of_isAsciiDigit (hback c hc), hwhole,
    he]

/-- **Readable numbers.** Digits and separators behind a first digit are read, if there are at most
28 digits, exactly if the last separator stands once. -/
theorem isSome_readChars?_canonical_iff (hsign : sign ∈ [[], ['+'], ['-']])
    (hd : isAsciiDigit d = true)
    (htail : ∀ c ∈ tail, isAsciiDigit c = true ∨ isSeparator c = true)
    (hcount : (d :: tail).countP isAsciiDigit ≤ 28) :
    (readChars? (canonical (sign ++ d :: tail))).isSome = true ↔
      SeparatesOnce (sign ++ d :: tail) := by
  have hall : ∀ c ∈ d :: tail, isAsciiDigit c = true ∨ isSeparator c = true :=
    List.forall_mem_cons.mpr ⟨.inl hd, htail⟩
  have hdigit : ∀ c ∈ d :: tail, isSeparator c = false → isAsciiDigit c = true := fun c hc hs =>
    (hall c hc).resolve_right (by rw [hs]; exact Bool.false_ne_true)
  by_cases hsome : ∃ s ∈ tail, isSeparator s = true
  · obtain ⟨front, s, back, rfl, hs, hback⟩ := exists_last hsome
    rw [← List.cons_append] at *
    rw [← List.append_assoc, separatesOnce_iff hs hback]
    by_cases hfront : s ∈ sign ++ d :: front
    · -- two points are left
      have htwo := two_le_count_canonical hs hfront hback
      rw [List.append_assoc] at htwo ⊢
      rw [Decimal.readChars?_eq_none (not_exponent hsign hall) htwo]
      exact iff_of_false Bool.false_ne_true (not_not.mpr hfront)
    · have honce : s ∉ d :: front := fun h => hfront (List.mem_append_right _ h)
      have hfraction : ∀ c ∈ back, isAsciiDigit c = true := fun c hc =>
        hdigit c (List.mem_append_right _ (List.mem_cons_of_mem _ hc)) (hback c hc)
      have hends : back.length ≤ (s :: back).countP isAsciiDigit := by
        rw [List.countP_cons, List.countP_eq_length.mpr hfraction]
        exact Nat.le_add_right _ _
      rw [List.countP_append] at hcount
      obtain ⟨e, he⟩ := exists_readChars?_once hsign hs honce
        (fun c hc => hall c (List.mem_append_left _ hc)) ⟨d, List.mem_cons_self, hd⟩ hfraction
        (by omega)
      rw [List.append_assoc, he]
      exact iff_of_true rfl hfront
  · have hnone : ∀ c ∈ d :: tail, isSeparator c = false :=
      List.forall_mem_cons.mpr ⟨isSeparator_of_isAsciiDigit hd, fun c hc =>
        Bool.eq_false_iff.mpr fun hs => hsome ⟨c, hc, hs⟩⟩
    have hplain : ∀ c ∈ sign ++ d :: tail, isSeparator c = false :=
      List.forall_mem_append.mpr ⟨Decimal.forall_mem_sign hsign rfl rfl, hnone⟩
    have hdigits : ∀ c ∈ d :: tail, isAsciiDigit c = true := fun c hc => hdigit c hc (hnone c hc)
    rw [List.countP_eq_length.mpr hdigits] at hcount
    obtain ⟨e, he⟩ :=
      Decimal.exists_readChars?_digits hsign (List.cons_ne_nil _ _) hdigits hcount
    rw [canonical_eq_self hplain, he, SeparatesOnce, separators_eq_nil hplain]
    exact iff_of_true rfl fun s hs => nomatch hs

/-! ### Matches -/

theorem IsSigning.mem (h : IsSigning sign) : sign ∈ [[], ['+'], ['-']] := by
  have hall : ∀ c ∈ "-+".toList, [c] ∈ [[], ['+'], ['-']] := by decide
  rcases h with rfl | ⟨c, hc, rfl⟩
  · exact List.mem_cons_self
  · exact hall c (List.contains_iff_mem.mp hc)

/-- No letter of a currency belongs to a number. -/
theorem Numeral.not_mem_currencyLetters {numeral rest : List Char} (h : Numeral rest numeral) :
    ∀ c ∈ numeral, c ∉ currencyLetters := by
  have hmarks : ∀ c ∈ ".,\u00a0\u202f".toList, c ∉ currencyLetters := by decide
  obtain ⟨sign, d, tail, rfl, hsign, hd, htail⟩ := h.exists_cons
  refine List.forall_mem_append.mpr ⟨?_, List.forall_mem_cons.mpr ⟨?_, ?_⟩⟩
  · exact Decimal.forall_mem_sign hsign.mem (by decide) (by decide)
  · exact not_mem_currencyLetters_of_isDecimalDigit hd
  · intro c hc
    exact (htail c hc).elim not_mem_currencyLetters_of_isDecimalDigit fun hmark =>
      hmarks c (List.contains_iff_mem.mp hmark)

/-- A currency mark has no separators. -/
theorem Fringe.separators_eq_nil {mark : List Char} (h : Fringe isPadding mark) :
    separators mark = [] := by
  have hletters : ∀ c ∈ currencyLetters, isSeparator c = false := by decide
  refine Amount.separators_eq_nil fun c hc => ?_
  rcases h.forall_mem c hc with hpadding | hletter
  · refine Bool.eq_false_iff.mpr fun hs => ?_
    rw [isPadding_of_isSeparator hs] at hpadding
    exact nomatch hpadding
  · exact hletters c hletter

/-- Of what stands behind the first digit of a number digits and separators count. -/
private theorem isAsciiDigit_or_isSeparator
    (htail : ∀ c ∈ tail, isDecimalDigit c = true ∨ isGroupMark c = true)
    (hascii : ∀ c ∈ tail, isDecimalDigit c = true → isAsciiDigit c = true) :
    ∀ c ∈ kept tail, isAsciiDigit c = true ∨ isSeparator c = true := by
  have hmarks : ∀ c ∈ ".,\u00a0\u202f".toList, isPadding c = true ∨ isSeparator c = true := by
    decide
  intro c hc
  obtain ⟨hc, hkeep⟩ := List.mem_filter.mp hc
  refine (htail c hc).imp (hascii c hc) fun hmark => ?_
  refine (hmarks c (List.contains_iff_mem.mp hmark)).resolve_left ?_
  rw [(Bool.not_eq_true' _).mp hkeep]
  exact Bool.false_ne_true

theorem kept_signed (hsign : sign ∈ [[], ['+'], ['-']]) (hd : isDecimalDigit d = true) :
    kept (sign ++ d :: tail) = sign ++ d :: kept tail := by
  rw [kept_append, kept_eq_self (Decimal.forall_mem_sign hsign rfl rfl), kept,
    List.filter_cons_of_pos (by rw [isPadding_of_isDecimalDigit hd]; rfl)]
  rfl

/-- A numeral that begins and ends with ASCII digits is read without its padding and its mark. -/
private theorem normalizeChars?_marked {mark : List Char} (hsign : sign ∈ [[], ['+'], ['-']])
    (hd : isAsciiDigit d = true) (hletters : ∀ c ∈ sign ++ d :: tail, c ∉ currencyLetters)
    (hlast : (sign ++ d :: tail).getLast? = some c) (hc : isAsciiDigit c = true)
    (hmark : Fringe isPadding mark) :
    normalizeChars? (sign ++ d :: tail ++ mark) =
      readChars? (canonical (sign ++ d :: kept tail)) := by
  have hkept : kept (sign ++ d :: tail) = sign ++ d :: kept tail :=
    kept_signed hsign (Text.isDecimalDigit_of_isAsciiDigit hd)
  -- behind the last digit there is no separator to drop
  have hend : ∀ e, (kept (sign ++ d :: tail)).getLast? = some e → isSeparator e = false := by
    intro e he
    rw [getLast?_kept hlast (isPadding_of_isDecimalDigit (Text.isDecimalDigit_of_isAsciiDigit hc))]
      at he
    obtain rfl := Option.some.inj he
    exact isSeparator_of_isAsciiDigit hc
  have hmargin : Fringe isMargin mark := hmark.mono fun c hc => by rw [isMargin, hc]; rfl
  have hdigit : ∃ e ∈ kept (sign ++ d :: tail), isAsciiDigit e = true := by
    rw [hkept]
    exact ⟨d, List.mem_append_right _ List.mem_cons_self, hd⟩
  rw [← List.nil_append (sign ++ d :: tail), normalizeChars?_eq .nil hletters hmargin hend hdigit,
    hkept]

/-- A match whose digits are ASCII and not too many is read exactly if its last separator stands
once. -/
theorem isSome_normalize?_iff (h : hit ∈ Pattern.amount.findAll cs)
    (hascii : ∀ c ∈ hit.span.text.toList, isDecimalDigit c = true → isAsciiDigit c = true)
    (hcount : hit.span.text.toList.countP isDecimalDigit ≤ 28) :
    (normalize? hit.span.text).isSome = true ↔ SeparatesOnce hit.span.text.toList := by
  obtain ⟨before, numeral, mark, after, -, hnumeral, hmark, hsplits⟩ :=
    exists_numeral_of_mem_findAll h
  rw [normalize?, hsplits.text_eq, String.toList_ofList] at *
  have hletters := hnumeral.not_mem_currencyLetters
  obtain ⟨digit, hlast, hdigit⟩ := hnumeral.closesDigit
  obtain ⟨sign, d, tail, rfl, hsign, hd, htail⟩ := hnumeral.exists_cons
  replace hsign := hsign.mem
  obtain ⟨hsigned, -⟩ := List.forall_mem_append.mp hascii
  obtain ⟨-, hbehind⟩ := List.forall_mem_append.mp hsigned
  obtain ⟨hfirst, hothers⟩ := List.forall_mem_cons.mp hbehind
  have hseparators : separators (sign ++ d :: tail ++ mark) =
      separators (sign ++ d :: kept tail) := by
    rw [separators_append, hmark.separators_eq_nil, List.append_nil, ← kept_signed hsign hd,
      separators_kept]
  have hsub : (d :: kept tail).Sublist (sign ++ d :: tail ++ mark) :=
    ((List.filter_sublist.cons_cons d).trans (List.sublist_append_right ..)).trans
      (List.sublist_append_left ..)
  have hfits : (d :: kept tail).countP isAsciiDigit ≤ 28 :=
    calc (d :: kept tail).countP isAsciiDigit
        ≤ (d :: kept tail).countP isDecimalDigit :=
          List.countP_mono_left fun c _ hc => Text.isDecimalDigit_of_isAsciiDigit hc
      _ ≤ (sign ++ d :: tail ++ mark).countP isDecimalDigit := hsub.countP_le
      _ ≤ 28 := hcount
  rw [normalizeChars?_marked hsign (hfirst hd) hletters hlast
    (hsigned digit (List.mem_of_getLast? hlast) hdigit) hmark, SeparatesOnce, hseparators]
  exact isSome_readChars?_canonical_iff hsign (hfirst hd)
    (isAsciiDigit_or_isSeparator htail hothers) hfits

/-- The amounts of a line are the matches that are read and that no percent sign follows. -/
theorem exists_mem_locate_iff_isSome (h : hit ∈ Pattern.amount.findAll line.toList)
    (hpercent : isPercentNext (hit.after line.toList) = false) :
    (∃ found ∈ locate line, found.span = hit.span) ↔ (normalize? hit.span.text).isSome = true := by
  constructor
  · rintro ⟨found, hfound, hspan⟩
    obtain ⟨-, -, -, -, hvalue⟩ := mem_locate_iff.mp hfound
    exact Option.isSome_of_eq_some (hspan ▸ hvalue)
  · intro hsome
    obtain ⟨value, hvalue⟩ := Option.isSome_iff_exists.mp hsome
    exact ⟨⟨value, hit.span⟩, mem_locate_iff.mpr ⟨hit, h, hpercent, rfl, hvalue⟩, rfl⟩

/-- **Matched amounts.** A match in at most 28 ASCII digits that no percent sign follows is read,
and so found on the line, exactly if its last separator stands once. -/
theorem separatesOnce_iff_located (h : hit ∈ Pattern.amount.findAll line.toList)
    (hascii : ∀ c ∈ hit.span.text.toList, isDecimalDigit c = true → isAsciiDigit c = true)
    (hcount : hit.span.text.toList.countP isDecimalDigit ≤ 28)
    (hpercent : isPercentNext (hit.after line.toList) = false) :
    ((normalize? hit.span.text).isSome = true ↔ SeparatesOnce hit.span.text.toList) ∧
      ((∃ found ∈ locate line, found.span = hit.span) ↔ SeparatesOnce hit.span.text.toList) := by
  have hread := isSome_normalize?_iff h hascii hcount
  exact ⟨hread, (exists_mem_locate_iff_isSome h hpercent).trans hread⟩

theorem separatesOnce_iff_located_decimals :
    ∃ hit ∈ Pattern.amount.findAll "Total 1.234,50 EUR".toList, hit.span.text = "1.234,50 EUR" ∧
      ((normalize? hit.span.text).isSome = true ↔ SeparatesOnce hit.span.text.toList) ∧
        ((∃ found ∈ locate "Total 1.234,50 EUR", found.span = hit.span) ↔
          SeparatesOnce hit.span.text.toList) := by
  have hmem : ⟨⟨6, 18, "1.234,50 EUR"⟩, []⟩ ∈
      Pattern.amount.findAll "Total 1.234,50 EUR".toList := by decide +kernel
  refine ⟨_, hmem, rfl, separatesOnce_iff_located hmem ?_ ?_ ?_⟩
  · decide
  · decide
  · decide

/-- A number of more than two groups without decimals is matched, but not read, and so the line has
no amount. -/
theorem exists_unread_amount :
    ∃ hit ∈ Pattern.amount.findAll "Total 1.234.567 EUR".toList,
      hit.span.text = "1.234.567 EUR" ∧
      (∀ c ∈ hit.span.text.toList, isDecimalDigit c = true → isAsciiDigit c = true) ∧
      hit.span.text.toList.countP isDecimalDigit ≤ 28 ∧
      isPercentNext (hit.after "Total 1.234.567 EUR".toList) = false ∧
      normalize? hit.span.text = none ∧ locate "Total 1.234.567 EUR" = [] := by
  have hmem : ⟨⟨6, 19, "1.234.567 EUR"⟩, []⟩ ∈
      Pattern.amount.findAll "Total 1.234.567 EUR".toList := by decide +kernel
  refine ⟨_, hmem, rfl, ?_, ?_, ?_, ?_, ?_⟩
  · decide
  · decide
  · decide
  · decide +kernel
  · decide +kernel

end InvoiceFields.Amount
