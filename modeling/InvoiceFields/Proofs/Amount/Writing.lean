import InvoiceFields.Proofs.Amount.Match
import InvoiceFields.Proofs.Amount.Spelling
import InvoiceFields.Proofs.Decimal.Hundredths

/-!
# Amounts that are written

An amount is written with its thousands in groups and two digits behind a comma (`toList_format`).
Such a text is a numeral, whether the line ends behind it or a euro sign follows, so a line with it
behind text without digits has one amount, which is the one that was written (`locate_format`).
-/

namespace InvoiceFields.Amount

open Pattern (Place Prefers)
open Text (isAsciiDigit isDecimalDigit)

variable {d : Decimal} {a b : Place} {after rest : List Char} {c : Char}

/-! ### The text -/

theorem toList_format (d : Decimal) : (format d).toList =
    d.signChars ++ (groupedBy '.' d.wholeDigits ++ ',' :: d.hundredths) := by
  rw [format, String.toList_ofList, groupThousands_eq, List.append_assoc]
  rfl

/-- Two digits stand behind the comma. -/
theorem exists_hundredths (d : Decimal) :
    ∃ x y, d.hundredths = [x, y] ∧ isDecimalDigit x = true ∧ isDecimalDigit y = true := by
  have hlength : d.hundredths.length = 2 := by
    rw [Decimal.hundredths, List.length_take, List.length_append]
    exact Nat.min_eq_left (Nat.le_add_left 2 _)
  obtain ⟨x, y, hxy⟩ := List.length_eq_two.mp hlength
  have hdigit : ∀ c ∈ d.hundredths, isDecimalDigit c = true := fun c hc =>
    Text.isDecimalDigit_of_isAsciiDigit (Decimal.isAsciiDigit_of_mem_hundredths hc)
  rw [hxy] at hdigit
  exact ⟨x, y, hxy, hdigit x (by simp), hdigit y (by simp)⟩

/-- What is written is a numeral, if no digit follows. -/
theorem numeral_format (d : Decimal) (hrest : ¬ OpensDigit rest) :
    Numeral rest (format d).toList := by
  obtain ⟨x, y, hxy, hx, hy⟩ := exists_hundredths d
  have hsign : IsSigning d.signChars := by
    rw [Decimal.signChars]
    cases d.isNegative with
    | true => exact .inr ⟨'-', by decide, rfl⟩
    | false => exact .inl rfl
  have hcomma : isGroupMark ',' = true := by decide
  have hgroup : ¬ OpensGroup ([',', x, y] ++ rest) := by
    -- the third digit of a group would be the first character behind the hundredths
    rintro ⟨mark, ds, rest', heq, -, hlength, hds⟩
    obtain ⟨p, q, r, rfl⟩ := List.length_eq_three.mp hlength
    simp only [List.cons_append, List.nil_append, List.cons.injEq] at heq
    obtain ⟨-, -, -, rfl⟩ := heq
    exact hrest (opensDigit_cons.mpr (hds r (by simp)))
  rw [toList_format, hxy, ← List.append_assoc]
  refine .mk hsign (whole_groupedBy d.wholeDigits_ne_nil (fun c hc => ?_) (by decide) ?_ hgroup)
    (.two (by decide) hx hy)
  · exact Text.isDecimalDigit_of_isAsciiDigit (d.isAsciiDigit_of_mem_wholeDigits hc)
  · exact not_opensDigit_of_isGroupMark hcomma

/-! ### On a line -/

/-- What may stand behind the amount: nothing, or the sign of the euro. -/
theorem prefers_mark (hafter : after ∈ [[], [' ', '€']]) (hrest : a.rest = after) :
    markPattern.Prefers a (a.past after []) := by
  simp only [List.mem_cons, List.not_mem_nil, or_false] at hafter
  rcases hafter with rfl | rfl
  · obtain ⟨before, _, offset, groups⟩ := a
    obtain rfl := hrest
    rfl
  · have hblank : ∀ c ∈ [' '], Text.isBlank c = true := by decide
    have hsymbol : ∀ c, ['€'].head? = some c → Text.isBlank c = false := by
      rintro _ ⟨⟩
      rfl
    have heuro : symbolPattern.Prefers (a.past [' '] ['€'])
        ((a.past [' '] ['€']).past ['€'] []) := by
      refine Prefers.alt_left (Pattern.prefers_one rfl ?_)
      exact beq_self_eq_true '€'
    rw [← List.singleton_append, ← Place.past_past a [' '] ['€'] ['€'] []]
    exact ((Pattern.prefers_many_one hblank hsymbol hrest).seq heuro).optional

/-- No amount begins with anything but a sign or a digit. -/
theorem run_amount_eq_nil
    (h : ∀ c, a.rest.head? = some c → isDecimalDigit c = false ∧ isSign c = false) :
    Pattern.amount.run a = [] := by
  rw [run_amount]
  refine Pattern.run_seq_eq_nil (List.eq_nil_iff_forall_not_mem.mpr fun b hb => ?_)
  obtain ⟨sign, cs, hrest, hsign, d, hhead, hd⟩ := exists_sign_of_mem_run hb
  rcases hsign with rfl | ⟨c, hc, rfl⟩
  · rw [(h d (by rw [hrest]; exact hhead)).1] at hd
    exact nomatch hd
  · rw [(h c (by rw [hrest]; rfl)).2] at hc
    exact nomatch hc

/-- A written amount is matched whole. -/
theorem prefers_format (d : Decimal) (hafter : after ∈ [[], [' ', '€']])
    (hrest : a.rest = (format d).toList ++ after) :
    Pattern.amount.Prefers a (a.past ((format d).toList ++ after) []) := by
  have hdigit : ¬ OpensDigit after := by
    simp only [List.mem_cons, List.not_mem_nil, or_false] at hafter
    rcases hafter with rfl | rfl
    · exact not_opensDigit.mpr nofun
    · exact not_opensDigit.mpr (by rintro _ ⟨⟩; rfl)
  refine prefers_amount_iff.mpr ⟨(format d).toList, after, hrest, numeral_format d hdigit, ?_⟩
  rw [← Place.past_past a (format d).toList after after []]
  exact prefers_mark hafter rfl

/-- Of what is written the sign, the whole part and the hundredths are read, with a currency behind
them or not. -/
theorem normalizeChars?_format (d : Decimal) (hafter : after ∈ [[], [' ', '€']]) :
    normalizeChars? ((format d).toList ++ after) =
      Decimal.readChars? (d.signChars ++ (d.wholeDigits ++ '.' :: d.hundredths)) := by
  have hmargins : ∀ after ∈ [[], [' ', '€']], ∀ c ∈ after, isMargin c = true := by decide
  have hspelled : Spelled d.wholeDigits (groupedBy '.' d.wholeDigits) ',' :=
    spelled_groupedBy (fun _ => d.isAsciiDigit_of_mem_wholeDigits) (by decide) rfl (by decide)
  have hne : d.hundredths ≠ [] := by
    obtain ⟨x, y, hxy, -⟩ := exists_hundredths d
    rw [hxy]
    exact List.cons_ne_nil _ _
  have hread := hspelled.normalizeChars?_eq d.signChars_mem hne
    (fun _ => Decimal.isAsciiDigit_of_mem_hundredths) (padded_self _) .nil
    (fringe_of_forall (hmargins after hafter))
  rwa [List.nil_append, ← toList_format] at hread

/-- What is written is read again, with a currency or not. -/
theorem exists_normalizeChars?_format (h : d.IsCents) (hafter : after ∈ [[], [' ', '€']]) :
    ∃ e, normalizeChars? ((format d).toList ++ after) = some e ∧ e.value = d.value := by
  rw [normalizeChars?_format d hafter]
  exact h.exists_readChars?

theorem normalize?_format (d : Decimal) : normalize? (format d) =
    Decimal.readChars? (d.signChars ++ (d.wholeDigits ++ '.' :: d.hundredths)) := by
  have hread := normalizeChars?_format d List.mem_cons_self
  rwa [List.append_nil] at hread

/-- On a line behind text without digits and signs a written amount is the only match. -/
theorem exists_locate_format (h : d.IsCents) {before after : String}
    (hbefore : ∀ c ∈ before.toList, isDecimalDigit c = false ∧ isSign c = false)
    (hafter : after.toList ∈ [[], [' ', '€']]) :
    ∃ found, locate (before ++ format d ++ after) = [found] ∧ found.value.value = d.value := by
  have hne : (format d).toList ++ after.toList ≠ [] := by
    rw [toList_format]
    simp
  have hskip : ∀ c ∈ before.toList, ∀ m : Place, m.rest.head? = some c →
      Pattern.amount.run m = [] := fun c hc m hm =>
    run_amount_eq_nil fun c' hc' => by
      obtain rfl := Option.some.inj (hm.symm.trans hc')
      exact hbefore c hc
  obtain ⟨hit, hfind, hsplits⟩ := Pattern.findAll_eq_singleton hskip
    (fun _ => prefers_format d hafter) hne
  obtain ⟨e, he, hvalue⟩ := exists_normalizeChars?_format h hafter
  have hline : (before ++ format d ++ after).toList =
      before.toList ++ ((format d).toList ++ after.toList) := by
    rw [String.toList_append, String.toList_append, List.append_assoc]
  -- the match ends the line, so no percent sign follows it
  have hend : hit.after (before ++ format d ++ after).toList = [] := by
    have hrest := hsplits.after_eq []
    rwa [List.append_nil, ← hline] at hrest
  have hread : normalize? hit.span.text = some e := by
    rw [hsplits.text_eq, normalize?, String.toList_ofList]
    exact he
  refine ⟨⟨e, hit.span⟩, ?_, hvalue⟩
  rw [locate, hline, hfind, ← hline, List.filterMap_cons_some, List.filterMap_nil]
  rw [hend, if_neg (by decide), hread]
  rfl

theorem exists_normalize?_format (h : d.IsCents) :
    ∃ e, normalize? (format d) = some e ∧ e.value = d.value := by
  rw [normalize?_format]
  exact h.exists_readChars?

/-- The digits of the whole part are written in groups. -/
theorem exists_inThrees_format (d : Decimal) :
    ∃ first groups x y, InThrees (Decimal.digits (d.magnitude / tenTo d.scale)) first groups ∧
      format d = String.ofList ((if d.isNegative then ['-'] else []) ++
        (first ++ groups.flatMap ('.' :: ·)) ++ [',', x, y]) := by
  obtain ⟨first, groups, hgroups, hgrouped⟩ := exists_inThrees d.wholeDigits_ne_nil
  obtain ⟨x, y, hxy, -⟩ := exists_hundredths d
  rw [d.wholeDigits_eq] at hgroups
  refine ⟨first, groups, x, y, hgroups, ?_⟩
  rw [← hgrouped, ← hxy, List.append_assoc]
  exact (String.ofList_toList ..).symm.trans (congrArg String.ofList (toList_format d))

/-- **Written amounts.** A whole number of hundredths is found again, and is read again, where it is
written behind text without digits and signs, with a currency or not. The digits of its whole part
are written in groups of three, with points between them. -/
theorem locate_format (h : d.IsCents) {before after : String}
    (hbefore : ∀ c ∈ before.toList, isDecimalDigit c = false ∧ isSign c = false)
    (hafter : after ∈ ["", " €"]) :
    (∃ found, locate (before ++ format d ++ after) = [found] ∧ found.value.value = d.value) ∧
      (∃ e, normalize? (format d) = some e ∧ e.value = d.value) ∧
        ∃ first groups x y, InThrees (Decimal.digits (d.magnitude / tenTo d.scale)) first groups ∧
          format d = String.ofList ((if d.isNegative then ['-'] else []) ++
            (first ++ groups.flatMap ('.' :: ·)) ++ [',', x, y]) := by
  have hafters : after.toList ∈ [[], [' ', '€']] := by
    simp only [List.mem_cons, List.not_mem_nil, or_false] at hafter
    rcases hafter with rfl | rfl <;> decide
  exact ⟨exists_locate_format h hbefore hafters, exists_normalize?_format h,
    exists_inThrees_format d⟩

theorem locate_format_least :
    ∃ d : Decimal, d.coefficient = -79228162514264337593543950335 ∧ d.scale = 2 ∧
      (∃ found, locate ("Total: " ++ format d ++ " €") = [found] ∧ found.value.value = d.value) ∧
        ∃ e, normalize? (format d) = some e ∧ e.value = d.value := by
  have hcents : Decimal.IsCents
      ⟨-79228162514264337593543950335, 2, by decide, by decide⟩ :=
    Decimal.isCents_of_scale_le (Nat.le_refl 2)
  have hbefore : ∀ c ∈ "Total: ".toList, isDecimalDigit c = false ∧ isSign c = false := by
    decide
  have hafter : " €" ∈ ["", " €"] := by decide
  obtain ⟨hlocate, hread, -⟩ := locate_format hcents hbefore hafter
  exact ⟨_, rfl, rfl, hlocate, hread⟩

end InvoiceFields.Amount
