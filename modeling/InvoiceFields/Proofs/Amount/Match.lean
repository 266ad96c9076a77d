import InvoiceFields.Proofs.Amount.Numeral
import InvoiceFields.Proofs.Amount.Reading
import InvoiceFields.Proofs.Pattern.Spans

/-!
# Amounts on a line

A match of the pattern of amounts is the numeral at its place and the currency mark behind it
(`prefers_amount_iff`). The numeral ends where a number ends, with two exceptions: behind groups of
three digits and behind two decimals further digits may follow, and they are no part of the match
(`Numeral.opensDigit_iff`). Behind a currency mark no number goes on: a digit there begins the next
match (`numeral_of_mem_locate`).
-/

namespace InvoiceFields.Amount

open Pattern (Place Prefers)
open Text (isDecimalDigit)

variable {a b : Place} {c : Char} {cs numeral mark rest : List Char} {hit : Pattern.Match}

/-! ### Matches -/

/-- The pattern of amounts is that of a numeral and that of a currency mark. -/
theorem run_amount (a : Place) :
    Pattern.amount.run a = (Pattern.seq numeralPattern markPattern).run a :=
  Pattern.run_sequence_append [_, _, _] [_]

theorem prefers_amount_iff : Pattern.amount.Prefers a b ↔
    ∃ numeral rest, a.rest = numeral ++ rest ∧ Numeral rest numeral ∧
      markPattern.Prefers (a.past numeral rest) b := by
  have hmark : ∀ m, markPattern.run m ≠ [] := Pattern.run_optional_ne_nil _
  rw [Prefers, run_amount, ← Prefers, Pattern.prefers_seq_iff hmark]
  constructor
  · rintro ⟨m, hm, hmark⟩
    obtain ⟨numeral, rest, hrest, hnumeral, rfl⟩ := prefers_numeralPattern_iff.mp hm
    exact ⟨numeral, rest, hrest, hnumeral, hmark⟩
  · rintro ⟨numeral, rest, hrest, hnumeral, hmark⟩
    have hm := prefers_numeralPattern_iff.mpr ⟨numeral, rest, hrest, hnumeral, rfl⟩
    exact ⟨a.past numeral rest, hm, hmark⟩

/-- The pattern of amounts takes something wherever there is a digit. -/
theorem exists_prefers_of_opensDigit (h : OpensDigit a.rest) :
    ∃ b, Pattern.amount.Prefers a b ∧ b.rest.length < a.rest.length := by
  obtain ⟨numeral, rest, hrest, hnumeral⟩ := exists_numeral (.inl rfl : IsSigning []) h
  have hne : ∀ m, markPattern.run m ≠ [] := Pattern.run_optional_ne_nil _
  obtain ⟨b, others, hrun⟩ := List.exists_cons_of_ne_nil (hne (a.past numeral rest))
  have hb : markPattern.Prefers (a.past numeral rest) b := by rw [Prefers, hrun]; rfl
  refine ⟨b, prefers_amount_iff.mpr ⟨numeral, rest, hrest, hnumeral, hb⟩, ?_⟩
  obtain ⟨mark, hmark, -⟩ := Pattern.follows_of_mem_run hb.mem_run
  replace hmark : rest = mark ++ b.rest := hmark
  obtain ⟨sign, d, tail, rfl, -⟩ := hnumeral.exists_cons
  have hlength := congrArg List.length hrest
  rw [hmark] at hlength
  simp only [List.nil_append, List.length_append, List.length_cons] at hlength
  omega

/-- An amount on a line is a numeral with the currency mark behind it. -/
theorem exists_numeral_of_mem_findAll (h : hit ∈ Pattern.amount.findAll cs) :
    ∃ before numeral mark after, cs = before ++ (numeral ++ mark) ++ after ∧
      Numeral (mark ++ after) numeral ∧ Fringe isPadding mark ∧
        hit.Splits before (numeral ++ mark) := by
  obtain ⟨before, taken, a, b, hcs, hsplits, hrest, -, hprefers⟩ :=
    Pattern.exists_prefers_of_mem_findAll h
  obtain ⟨numeral, rest, hrest', hnumeral, hmark⟩ := prefers_amount_iff.mp hprefers
  obtain ⟨mark, after, rfl, hfringe, rfl⟩ := exists_mark hmark.mem_run
  obtain rfl : taken = numeral ++ mark := by
    rw [hrest, ← List.append_assoc] at hrest'
    exact List.append_cancel_right hrest'
  exact ⟨before, numeral, mark, after, hcs, hnumeral, hfringe, hsplits⟩

/-! ### Numbers that are cut -/

/-- A number that goes on behind its groups of three digits, or behind two decimals of a plain
one. -/
inductive Overlong : List Char → Prop
  | grouped {sign ds gs rest : List Char} {d : Char} (hsign : IsSigning sign) (hne : ds ≠ [])
      (hlength : ds.length ≤ 3) (hdigits : IsDigits ds) (hgroups : Grouped gs) (hsome : gs ≠ [])
      (hd : isDecimalDigit d = true) : Overlong (sign ++ (ds ++ gs) ++ d :: rest)
  | decimals {sign ds rest : List Char} {mark c d e : Char} (hsign : IsSigning sign)
      (hlong : 3 < ds.length) (hdigits : IsDigits ds) (hmark : isDecimalMark mark = true)
      (hc : isDecimalDigit c = true) (hd : isDecimalDigit d = true)
      (he : isDecimalDigit e = true) : Overlong (sign ++ ds ++ mark :: c :: d :: e :: rest)

/-- Of a number that goes on for too long a part is a numeral. -/
theorem Overlong.exists_numeral (h : Overlong cs) :
    ∃ numeral rest, cs = numeral ++ rest ∧ Numeral rest numeral ∧ OpensDigit rest := by
  cases h with
  | @grouped sign ds gs rest d hsign hne hlength hdigits hgroups hsome hd =>
    have hopens : OpensDigit (d :: rest) := opensDigit_cons.mpr hd
    refine ⟨sign ++ (ds ++ gs) ++ [], d :: rest, by rw [List.append_nil], ?_, hopens⟩
    exact .mk hsign (.grouped hne hlength hdigits hgroups hsome hopens.not_opensGroup)
      (.none hopens.not_opensDecimals)
  | @decimals sign ds rest mark c d e hsign hlong hdigits hmark hc hd he =>
    refine ⟨sign ++ ds ++ [mark, c, d], e :: rest, by simp only [List.append_assoc]; rfl, ?_,
      opensDigit_cons.mpr he⟩
    refine .mk hsign (.plain (List.ne_nil_of_length_pos (by omega)) hdigits ?_ fun _ => hlong)
      (.two hmark hc hd)
    exact not_opensDigit_of_isGroupMark (isGroupMark_of_isDecimalMark hmark)

/-- A digit stands behind a numeral exactly if the number is too long for the pattern. -/
theorem Numeral.opensDigit_iff (h : Numeral rest numeral) :
    OpensDigit rest ↔ Overlong (numeral ++ rest) := by
  constructor
  · intro hopens
    obtain @⟨sign, whole, decimals, hsign, hwhole, hdecimals⟩ := h
    obtain ⟨e, hhead, he⟩ := hopens
    obtain ⟨rest, rfl⟩ := List.head?_eq_some_iff.mp hhead
    cases hdecimals with
    | none =>
      rw [List.append_nil]
      cases hwhole with
      | grouped hne hlength hdigits hgroups hsome _ =>
        exact .grouped hsign hne hlength hdigits hgroups hsome he
      | plain _ _ hend _ => exact absurd (opensDigit_cons.mpr he) hend
    | one _ _ hend => exact absurd (opensDigit_cons.mpr he) hend
    | @two mark c d hmark hc hd =>
      -- with the digit behind them the decimals are a group
      have hgroup : OpensGroup ([mark, c, d] ++ e :: rest) :=
        ⟨mark, [c, d, e], rest, rfl, isGroupMark_of_isDecimalMark hmark, rfl, by
          simp only [IsDigits, List.forall_mem_cons, hc, hd, he, true_and]
          exact List.forall_mem_nil _⟩
      cases hwhole with
      | grouped _ _ _ _ _ hend => exact absurd hgroup hend
      | plain _ hdigits _ hlong =>
        rw [List.append_assoc]
        exact .decimals hsign (hlong hgroup) hdigits hmark hc hd he
  · intro hlong
    obtain ⟨numeral', rest', hcs, hnumeral, hopens⟩ := hlong.exists_numeral
    rwa [(h.unique hnumeral hcs).2]

/-- An amount is a match that is read and that no percent sign follows. -/
theorem mem_locate_iff {line : String} {found : Found Decimal} :
    found ∈ locate line ↔ ∃ hit ∈ Pattern.amount.findAll line.toList,
      isPercentNext (hit.after line.toList) = false ∧ hit.span = found.span ∧
        normalize? found.span.text = some found.value := by
  rw [locate, List.mem_filterMap]
  refine exists_congr fun hit => and_congr_right fun _ => ?_
  split
  case isTrue hpercent => exact iff_of_false nofun fun ⟨h, _⟩ => nomatch hpercent.symm.trans h
  case isFalse hpercent =>
    rw [Option.map_eq_some_iff]
    constructor
    · rintro ⟨value, hvalue, rfl⟩
      exact ⟨Bool.eq_false_iff.mpr hpercent, rfl, hvalue⟩
    · rintro ⟨-, hspan, hvalue⟩
      exact ⟨found.value, by rwa [hspan], by rw [hspan]⟩

/-- No digit belongs to a currency mark. -/
theorem Fringe.not_opensDigit (h : Fringe isPadding mark) (hne : mark ≠ []) :
    ¬ OpensDigit (mark ++ rest) := by
  obtain ⟨c, mark, rfl⟩ := List.exists_cons_of_ne_nil hne
  rw [List.cons_append, opensDigit_cons]
  intro hc
  rcases h.forall_mem c List.mem_cons_self with hpadding | hletter
  · rw [isPadding_of_isDecimalDigit hc] at hpadding
    exact nomatch hpadding
  · exact not_mem_currencyLetters_of_isDecimalDigit hc hletter

/-- An amount that is found on a line is a numeral with the currency mark behind it. Digits go on
behind the numeral exactly if the number is too long for the pattern. If there is a mark, none do,
and a digit behind the mark begins the next match. -/
theorem numeral_of_mem_locate {line : String} {found : Found Decimal} (h : found ∈ locate line) :
    ∃ before numeral mark after, line.toList = before ++ (numeral ++ mark) ++ after ∧
      found.span = ⟨Text.byteLength before, Text.byteLength (before ++ (numeral ++ mark)),
        String.ofList (numeral ++ mark)⟩ ∧
      Fringe isPadding mark ∧ ClosesDigit numeral ∧
        (OpensDigit (mark ++ after) ↔ Overlong (numeral ++ (mark ++ after))) ∧
        (mark ≠ [] → ¬ OpensDigit (mark ++ after)) ∧
        (mark ≠ [] → OpensDigit after → ∃ next ∈ Pattern.amount.findAll line.toList,
          next.span.start = found.span.stop) := by
  obtain ⟨hit, hmem, hfound⟩ := List.mem_filterMap.mp h
  split at hfound
  case isTrue => exact nomatch hfound
  case isFalse =>
    obtain ⟨value, -, rfl⟩ := Option.map_eq_some_iff.mp hfound
    obtain ⟨before, numeral, mark, after, hline, hnumeral, hmark, hsplits⟩ :=
      exists_numeral_of_mem_findAll hmem
    refine ⟨before, numeral, mark, after, hline, ?_, hmark, hnumeral.closesDigit,
      hnumeral.opensDigit_iff, hmark.not_opensDigit, fun _ hopens => ?_⟩
    · rw [← hsplits.start_eq, ← hsplits.stop_eq, ← hsplits.text_eq]
    · rw [hline] at hmem ⊢
      exact Pattern.exists_mem_findAll_behind hmem hsplits fun a ha =>
        ha ▸ exists_prefers_of_opensDigit (ha ▸ hopens)

theorem numeral_of_mem_locate_four_decimals :
    ⟨⟨51234, 3, by decide, by decide⟩, ⟨4, 10, "51,234"⟩⟩ ∈ locate "IVA 51,2345 %" ∧
      ∃ before numeral mark after, "IVA 51,2345 %".toList = before ++ (numeral ++ mark) ++ after ∧
        (⟨4, 10, "51,234"⟩ : Span) = ⟨Text.byteLength before,
          Text.byteLength (before ++ (numeral ++ mark)), String.ofList (numeral ++ mark)⟩ ∧
        Fringe isPadding mark ∧ ClosesDigit numeral ∧
          (OpensDigit (mark ++ after) ↔ Overlong (numeral ++ (mark ++ after))) ∧
          (mark ≠ [] → ¬ OpensDigit (mark ++ after)) ∧
          (mark ≠ [] → OpensDigit after → ∃ next ∈ Pattern.amount.findAll "IVA 51,2345 %".toList,
            next.span.start = 10) := by
  have hmem : ⟨⟨51234, 3, by decide, by decide⟩, ⟨4, 10, "51,234"⟩⟩ ∈ locate "IVA 51,2345 %" := by
    decide +kernel
  exact ⟨hmem, numeral_of_mem_locate hmem⟩

-- behind a currency mark the next amount may begin at once
example : (locate "12€5").map (·.span) = [⟨0, 5, "12€"⟩, ⟨5, 6, "5"⟩] := by decide +kernel

/-- A rate with four decimals is cut behind the third one, and its first part is taken for an
amount. -/
theorem exists_cut_amount :
    ∃ found ∈ locate "IVA 5,1234 %", found.span = ⟨4, 9, "5,123"⟩ ∧
      found.value = ⟨5123, 3, by decide, by decide⟩ ∧
      "IVA 5,1234 %" = "IVA " ++ "5,123" ++ "4 %" ∧ OpensDigit "4 %".toList := by
  have hmem : ⟨⟨5123, 3, by decide, by decide⟩, ⟨4, 9, "5,123"⟩⟩ ∈ locate "IVA 5,1234 %" := by
    decide +kernel
  exact ⟨_, hmem, rfl, rfl, by decide, '4', rfl, by decide⟩

end InvoiceFields.Amount
