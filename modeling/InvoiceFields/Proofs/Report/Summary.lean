import InvoiceFields.Proofs.Amount.Writing
import InvoiceFields.Proofs.Decimal.Truncation
import InvoiceFields.Proofs.Document.Lines
import InvoiceFields.Proofs.Text.Blanks
import InvoiceFields.Report.Document

/-!
# The amounts of a summary

A summary has a line for each field that is resolved (`mem_lines_toSummary`). An amount stands on
its line with the first two of its decimals, and the others are cut off. So what is read from the
line is the nearest cent only if less than half a cent is cut off, and otherwise a cent closer to
zero than the nearest one (`shown_amount_towardZero`).
-/

namespace InvoiceFields.Report

open Text (Closed isBlank)

variable {r : Report} {f : Field} {v : FieldValue}

/-! ### The lines of the fields -/

/-- What stands on the line of a field. -/
def line (r : Report) (f : Field) (v : FieldValue) : String :=
  "  " ++ padKey f.key ++ " " ++ shown v ++ (if r.fallback.contains f then " *" else "")

/-- The key of a field and the blanks around it break no line. -/
private theorem ne_newline_of_mem_padKey (f : Field) :
    ∀ c ∈ ("  " ++ padKey f.key ++ " ").toList, (c == '\n') = false := by
  cases f <;> decide

/-- A value that breaks no line stands on one line. -/
private theorem ne_newline_of_mem_line (h : ∀ c ∈ (shown v).toList, (c == '\n') = false) :
    ∀ c ∈ (r.line f v).toList, (c == '\n') = false := by
  have hstar : ∀ c ∈ (if r.fallback.contains f then " *" else "").toList, (c == '\n') = false := by
    split <;> decide
  rw [line, String.toList_append, String.toList_append]
  exact List.forall_mem_append.mpr
    ⟨List.forall_mem_append.mpr ⟨ne_newline_of_mem_padKey f, h⟩, hstar⟩

/-- A line ends in no blank if its value does not. -/
private theorem closed_line (hne : (shown v).toList ≠ []) (h : Closed (shown v).toList) :
    Closed (r.line f v).toList := by
  have hvalue : Closed ("  " ++ padKey f.key ++ " " ++ shown v).toList := by
    rw [String.toList_append]
    exact h.append hne
  rw [line]
  split
  case isTrue =>
    rw [String.toList_append]
    refine Closed.append (fun c hc => ?_) (by decide)
    obtain rfl : '*' = c := Option.some.inj hc
    rfl
  case isFalse => rwa [String.append_empty]

/-- In front of a line that follows others there is a line break. -/
private theorem exists_newline_join (ls : List String) :
    ∃ above, "\n" ++ String.join (ls.map (· ++ "\n")) = above ++ "\n" := by
  rcases List.eq_nil_or_concat ls with rfl | ⟨ls, l, rfl⟩
  · exact ⟨"", rfl⟩
  · refine ⟨"\n" ++ String.join (ls.map (· ++ "\n")) ++ l, ?_⟩
    rw [List.concat_eq_append, List.map_append, String.join_append, List.map_singleton,
      String.join_cons, String.join_nil, String.append_empty, String.append_assoc,
      String.append_assoc]

/-- What stands above the fields of a summary. -/
def heading (r : Report) : String :=
  "Source:    " ++ r.source ++ "\n" ++ "Extractor: " ++ r.extractor ++ "\n" ++
    (if r.complete then "" else "Status:    incomplete (no base or total)\n")

/-- What stands below the fields of a summary. -/
def legend (r : Report) : String :=
  if r.fallback.isEmpty then "" else "\n  * from generic heuristics\n"

/-- A summary has its fields line by line. -/
theorem toSummary_eq (r : Report) : r.toSummary = String.ofList (Text.dropEndWhile isBlank
    (r.heading ++ "\n" ++
      String.join ((r.fields.entries.map fun e => r.line e.1 e.2).map (· ++ "\n")) ++
      r.legend).toList) := by
  rw [List.map_map]
  rfl

/-- A resolved field has its line in the text that a summary is made of. -/
private theorem exists_text_eq (h : r.fields.get? f = some v) : ∃ above below,
    r.toSummary = String.ofList (Text.dropEndWhile isBlank
      (above ++ "\n" ++ r.line f v ++ "\n" ++ below).toList) := by
  have hmem : (f, v) ∈ r.fields.entries :=
    List.mem_filterMap.mpr ⟨f, by cases f <;> decide, by rw [h]; rfl⟩
  obtain ⟨front, back, hsplit⟩ := List.append_of_mem hmem
  obtain ⟨above, habove⟩ := exists_newline_join (front.map fun e => r.line e.1 e.2)
  have hfront : ∀ rest,
      "\n" ++ (String.join ((front.map fun e => r.line e.1 e.2).map (· ++ "\n")) ++ rest) =
        above ++ ("\n" ++ rest) := by
    intro rest
    rw [← String.append_assoc, habove, String.append_assoc]
  refine ⟨r.heading ++ above,
    String.join ((back.map fun e => r.line e.1 e.2).map (· ++ "\n")) ++ r.legend, ?_⟩
  simp only [toSummary_eq, hsplit, List.map_append, String.join_append, List.map_cons,
    String.join_cons, String.append_assoc, hfront]

/-- A resolved field has its line in a summary, if its value is not empty, ends in no blank and
breaks no line. -/
theorem mem_lines_toSummary (h : r.fields.get? f = some v) (hne : (shown v).toList ≠ [])
    (hclosed : Closed (shown v).toList) (hbreak : ∀ c ∈ (shown v).toList, (c == '\n') = false) :
    r.line f v ∈ Text.lines r.toSummary := by
  obtain ⟨above, below, htext⟩ := exists_text_eq h
  have hlast : Closed (r.line f v).toList := closed_line hne hclosed
  have hline : (r.line f v).toList ≠ [] := by
    simp [line]
  have hchars : r.toSummary.toList = above.toList ++ '\n' :: ((r.line f v).toList ++
      Text.dropEndWhile isBlank ('\n' :: below.toList)) := by
    have hkept : Closed (above.toList ++ '\n' :: (r.line f v).toList) := by
      rw [← List.singleton_append, ← List.append_assoc]
      exact hlast.append hline
    have hsplit : (above ++ "\n" ++ r.line f v ++ "\n" ++ below).toList =
        (above.toList ++ '\n' :: (r.line f v).toList) ++ '\n' :: below.toList := by
      simp [String.toList_append]
    rw [htext, String.toList_ofList, hsplit, Text.dropEndWhile_append hkept, List.append_assoc,
      List.cons_append]
  have hrest : ∀ d, (Text.dropEndWhile isBlank ('\n' :: below.toList)).head? = some d →
      (d == '\n') = true := by
    intro d hd
    rcases List.prefix_cons_iff.mp (Text.dropEndWhile_prefix isBlank ('\n' :: below.toList)) with
      hnil | ⟨cs, hcs, -⟩
    · rw [hnil] at hd
      exact nomatch hd
    · rw [hcs] at hd
      obtain rfl := Option.some.inj hd
      rfl
  rw [← String.ofList_toList (s := r.line f v)]
  refine Text.mem_lines ?_ hline fun hreturn => nomatch hlast _ hreturn
  rw [hchars]
  exact Text.mem_splitWhere rfl (ne_newline_of_mem_line hbreak) hrest

/-! ### Amounts -/

/-- An amount is shown without blanks. -/
private theorem isBlank_of_mem_format {d : Decimal} :
    ∀ c ∈ (Amount.format d).toList, isBlank c = false := by
  intro c hc
  rw [Amount.toList_format, List.mem_append, List.mem_append, List.mem_cons] at hc
  rcases hc with hsign | hwhole | rfl | hhundredths
  · have hsigns : ∀ sign ∈ [[], ['+'], ['-']], ∀ c ∈ sign, isBlank c = false := by decide
    exact hsigns _ d.signChars_mem c hsign
  · rcases Amount.mem_groupedBy hwhole with rfl | hdigit
    · rfl
    · exact Text.isBlank_of_isAsciiDigit (d.isAsciiDigit_of_mem_wholeDigits hdigit)
  · rfl
  · exact Text.isBlank_of_isAsciiDigit (Decimal.isAsciiDigit_of_mem_hundredths hhundredths)

/-- An amount that is resolved has its line in a summary. -/
private theorem mem_lines_amount {d : Decimal} (h : r.fields.get? f = some (.amount d)) :
    r.line f (.amount d) ∈ Text.lines (r.write .text) := by
  have hne : (Amount.format d).toList ≠ [] := by
    rw [Amount.toList_format]
    simp
  refine mem_lines_toSummary h hne (Text.closed_of_forall isBlank_of_mem_format) fun c hc => ?_
  refine Bool.eq_false_iff.mpr fun hbreak => ?_
  rw [eq_of_beq hbreak] at hc
  exact nomatch isBlank_of_mem_format _ hc

/-- **Amounts that are shown.** A resolved amount stands on a line of its own in a summary. What is
read there is the amount without what goes beyond its cents. That is the amount rounded to cents, a
half going away from zero, exactly if less than half a cent is cut off; otherwise the rounded amount
is a cent further away from zero. -/
theorem shown_amount_towardZero (d : Decimal) :
    (∀ (r : Report) (f : Field), r.fields.get? f = some (.amount d) →
      "  " ++ padKey f.key ++ " " ++ Amount.format d ++
        (if r.fallback.contains f then " *" else "") ∈ Text.lines (r.write .text)) ∧
      ∃ e, Amount.normalize? (Amount.format d) = some e ∧
        e.value = towardZero (100 * d.value) / 100 ∧
        (e.value = (Amount.toCents d).value ↔ Int.fract |100 * d.value| < 1 / 2) ∧
        |(Amount.toCents d).value| =
          |e.value| + if 1 / 2 ≤ Int.fract |100 * d.value| then 1 / 100 else 0 := by
  obtain ⟨e, he, hvalue⟩ := d.exists_readChars?_towardZero
  have habs := abs_halfAway_eq (100 * d.value)
  refine ⟨fun r f h => mem_lines_amount h, e, (Amount.normalize?_format d).trans he, hvalue, ?_, ?_⟩
  · rw [hvalue, Decimal.value_toCents, div_left_inj' (by norm_num), Int.cast_inj, eq_comm,
      halfAway_eq_towardZero_iff]
  · rw [hvalue, Decimal.value_toCents, abs_div, abs_div, ← Int.cast_abs, ← Int.cast_abs, habs]
    split <;> norm_num [add_div]

theorem shown_amount_towardZero_negative :
    ∃ (d : Decimal) (r : Report), d.coefficient = -1234005 ∧ d.scale = 3 ∧
      r.fields.get? .total = some (.amount d) ∧ r.fallback = [.total] ∧
      "  total           -1.234,00 *" ∈ Text.lines (r.write .text) ∧
      ∃ e, Amount.normalize? "-1.234,00" = some e ∧ e.value = -1234 ∧
        |(Amount.toCents d).value| = 1234 + 1 / 100 := by
  have hformat : Amount.format ⟨-1234005, 3, by decide, by decide⟩ = "-1.234,00" := by
    decide +kernel
  obtain ⟨hlines, e, he, hvalue, -, habs⟩ :=
    shown_amount_towardZero ⟨-1234005, 3, by decide, by decide⟩
  have hhundred : (100 * Decimal.value ⟨-1234005, 3, by decide, by decide⟩ : ℚ) =
      -(123400 + 1 / 2) := by norm_num [Decimal.value]
  have hcut : towardZero (-(123400 + 1 / 2)) = -123400 := by norm_num [towardZero]
  have hfract : 1 / 2 ≤ Int.fract |(-(123400 + 1 / 2) : ℚ)| := by norm_num
  rw [hformat] at hlines he
  rw [hhundred, hcut] at hvalue
  have hline := hlines ⟨"a.txt", "generic", true, Extraction.empty.set .total (.amount _), [.total]⟩
    .total rfl
  have hwhole : e.value = -1234 := by
    rw [hvalue]
    norm_num
  rw [hhundred, if_pos hfract, hwhole] at habs
  refine ⟨_, _, rfl, rfl, rfl, rfl, hline, e, he, hwhole, ?_⟩
  rw [habs]
  norm_num

/-- Half a cent is shown as nothing, and is rounded to a cent. -/
theorem exists_amount_shown_otherwise :
    ¬ ∀ d : Decimal, ∃ e, Amount.normalize? (Amount.format d) = some e ∧
      e.value = (Amount.toCents d).value := by
  intro h
  obtain ⟨e, he, hvalue⟩ := h ⟨5, 3, by decide, by decide⟩
  have hread : (Amount.normalize? (Amount.format ⟨5, 3, by decide, by decide⟩)).map
      (·.coefficient) = some 0 := by decide +kernel
  have hcents : (Amount.toCents ⟨5, 3, by decide, by decide⟩).coefficient = 1 ∧
      (Amount.toCents ⟨5, 3, by decide, by decide⟩).scale = 2 := by decide +kernel
  rw [he, Option.map_some, Option.some_inj] at hread
  rw [Decimal.value, Decimal.value, hread, hcents.1, hcents.2] at hvalue
  norm_num at hvalue

end InvoiceFields.Report
