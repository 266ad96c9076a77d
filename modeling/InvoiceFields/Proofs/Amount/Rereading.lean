import InvoiceFields.Proofs.Amount.Reading

/-!
# Amounts that are read again

The text of a decimal has nothing that reading an amount takes away: no blanks, no decoration, no
currency and no comma, and it ends in a digit. So it is read as the decimal it shows, with the same
scale (`normalize?_text`), and an amount that has been read once and written is read as before
(`normalize?_idempotent`).
-/

namespace InvoiceFields.Amount

open Text (isAsciiDigit isDecimalDigit isDecimalDigit_of_isAsciiDigit)

/-- The sign and the point of a decimal are kept like its digits. -/
private theorem kept_chars (d : Decimal) : kept d.chars = d.chars := by
  refine kept_eq_self fun c hc => ?_
  rcases d.mem_chars hc with hdigit | rfl | rfl
  · exact isPadding_of_isDecimalDigit (isDecimalDigit_of_isAsciiDigit hdigit)
  · decide
  · decide

private theorem not_mem_currencyLetters_of_mem_chars {d : Decimal} {c : Char} (h : c ∈ d.chars) :
    c ∉ currencyLetters := by
  rcases d.mem_chars h with hdigit | rfl | rfl
  · exact not_mem_currencyLetters_of_isDecimalDigit (isDecimalDigit_of_isAsciiDigit hdigit)
  · decide
  · decide

/-- A point in front of the fraction needs no change. -/
private theorem canonical_chars (d : Decimal) : canonical d.chars = d.chars := by
  have hcomma : d.chars.contains ',' = false := by
    refine Bool.eq_false_iff.mpr fun h => ?_
    rcases d.mem_chars (List.contains_iff_mem.mp h) with hdigit | heq | heq
    · exact nomatch hdigit
    · exact nomatch heq
    · exact nomatch heq
  rw [canonical, hcomma]
  rfl

/-- A decimal that is written is read as that decimal, with a margin behind it or not. -/
theorem normalizeChars?_chars (d : Decimal) {after : List Char} (hafter : Fringe isMargin after) :
    normalizeChars? (d.chars ++ after) = some d := by
  obtain ⟨c, hlast, hdigit⟩ := d.exists_getLast?_chars
  have hend : ∀ e, (kept d.chars).getLast? = some e → isSeparator e = false := by
    intro e he
    rw [kept_chars, hlast] at he
    obtain rfl := Option.some.inj he
    exact isSeparator_of_isAsciiDigit hdigit
  have hread := normalizeChars?_eq .nil (fun _ => not_mem_currencyLetters_of_mem_chars) hafter hend
    ⟨c, by rw [kept_chars]; exact List.mem_of_getLast? hlast, hdigit⟩
  rw [List.nil_append, kept_chars, canonical_chars] at hread
  have htext := d.read?_text
  rw [Decimal.read?, Decimal.text, String.toList_ofList] at htext
  rw [hread, htext]

/-- The text of a decimal is read as that decimal. -/
theorem normalize?_text (d : Decimal) : normalize? d.text = some d := by
  have hread := normalizeChars?_chars d .nil
  rw [List.append_nil] at hread
  rw [normalize?, Decimal.text, String.toList_ofList, hread]

/-- **Reading again.** Every decimal is read from its own text with its scale; so what is read of
any text, written and read again is the same decimal, and a text that is no amount stays none. -/
theorem normalize?_idempotent (raw : String) (d : Decimal) :
    normalize? d.text = some d ∧
      ((normalize? raw).bind fun e => normalize? e.text) = normalize? raw := by
  refine ⟨normalize?_text d, ?_⟩
  cases normalize? raw with
  | none => rfl
  | some e => exact normalize?_text e

end InvoiceFields.Amount
