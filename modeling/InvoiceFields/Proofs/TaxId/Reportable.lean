import InvoiceFields.Proofs.TaxId.Bare

/-!
# Identifiers that can be found at all

A search reports canonical forms of tokens, so not every text in canonical form can be found: only
one in the shape of an identifier, or with a country in front that is not dropped because its digits
take more bytes than ASCII digits do. Each of them is found on the line that consists of it
(`exists_mem_candidates_iff`).
-/

namespace InvoiceFields.TaxId

open Text (byteLength isWordChar upperChars)

variable {cs id front country body back : List Char}

/-- The canonical forms that can be found: identifiers, and identifiers behind a country that are
not of nine bytes. -/
def Reportable (id : List Char) : Prop :=
  Shaped id ∨ ∃ rest, id = 'E' :: 'S' :: rest ∧ Shaped rest ∧ byteLength rest ≠ 9

/-! ### What is found is reportable -/

/-- A country stays in front of anything but nine bytes. -/
theorem dropCountry_of_byteLength_ne (h : byteLength cs ≠ 9) :
    dropCountry ('E' :: 'S' :: cs) = 'E' :: 'S' :: cs := if_neg h

/-- The canonical form of a token is reportable. -/
theorem Occurrence.reportable (h : Occurrence (upperChars cs) front country body back) :
    Reportable (normalizeChars (country ++ body)) := by
  have hshaped := h.token.shaped_joined
  by_cases hdropped : country = [] ∨ byteLength (joined body) = 9
  · rw [h.normalizeChars_eq_joined hdropped]
    exact .inl hshaped
  · rw [not_or] at hdropped
    have hcountry := h.isCountry.joined_eq.resolve_left hdropped.1
    rw [h.normalizeChars_eq, hcountry]
    exact .inr ⟨joined body, dropCountry_of_byteLength_ne hdropped.2, hshaped, hdropped.2⟩

/-! ### What is reportable is found -/

/-- The characters of an identifier are word characters. -/
theorem Shaped.isWordChar (h : Shaped cs) : ∀ c ∈ cs, Text.isWordChar c = true :=
  h.forall_mem (fun _ => isWordChar_of_isCapital) fun _ => Text.isWordChar_of_isDecimalDigit

/-- A reportable text is a token from end to end, in word characters. -/
theorem Reportable.exists_token (h : Reportable id) :
    (∃ country body, IsCountry country ∧ Token body ∧ id = country ++ body) ∧
      ∀ c ∈ id, isWordChar c = true := by
  rcases h with hshaped | ⟨rest, rfl, hshaped, -⟩
  · exact ⟨⟨[], id, .inl rfl, hshaped.token, rfl⟩, hshaped.isWordChar⟩
  · refine ⟨⟨['E', 'S'], rest, .inr ⟨[], List.mem_cons_self, rfl⟩, hshaped.token, rfl⟩, ?_⟩
    exact List.forall_mem_cons.mpr ⟨by decide +kernel,
      List.forall_mem_cons.mpr ⟨by decide +kernel, hshaped.isWordChar⟩⟩

/-- In a text of word characters a token is all there is. -/
theorem Occurrence.eq_of_isWordChar (h : Occurrence cs front country body back)
    (hword : ∀ c ∈ cs, isWordChar c = true) : country ++ body = cs := by
  have hfront : front = [] := by
    rcases List.eq_nil_or_concat front with hnil | ⟨init, c, rfl⟩
    · exact hnil
    · have hfree := h.front_free
      rw [List.concat_eq_append, List.getLast?_concat, Option.any_some,
        hword c (h.text_eq ▸ by simp)] at hfree
      exact nomatch hfree
  have hback : back = [] := by
    cases back with
    | nil => rfl
    | cons c rest =>
      have hfree := h.back_free
      rw [List.head?_cons, Option.any_some, hword c (h.text_eq ▸ by simp)] at hfree
      exact nomatch hfree
  rw [h.text_eq, hfront, hback, List.append_nil, List.nil_append]

/-- **Reportable texts are found.** A reportable text in canonical form is found on the line that
consists of it. -/
theorem Reportable.mem_candidates {raw : String} (h : Reportable raw.toList)
    (hcanonical : normalize raw = raw) : raw ∈ candidates raw := by
  have hchars : normalizeChars raw.toList = raw.toList := by rw [← toList_normalize, hcanonical]
  have hcapitals : upperChars raw.toList = raw.toList := by
    rw [← hchars, upperChars_normalizeChars]
  obtain ⟨⟨country, body, hcountry, hbody, hwhole⟩, hword⟩ := h.exists_token
  rw [candidates, hcapitals]
  rcases findAll_cases raw.toList with
    ⟨-, hnone⟩ | ⟨front, country', body', back, m, ms, hoccurs, -, hfind, htext, -⟩
  · exact absurd (occurrence_of_eq hcountry hbody hwhole) (hnone _ _ _ _)
  · rw [hfind, List.map_cons, htext, hoccurs.eq_of_isWordChar hword, String.ofList_toList,
      hcanonical]
    exact List.mem_cons_self

/-- **What can be found.** A canonical form stands on some line exactly if it is reportable. -/
theorem exists_mem_candidates_iff {raw : String} (hcanonical : normalize raw = raw) :
    (∃ line, raw ∈ candidates line) ↔ Reportable raw.toList := by
  constructor
  · rintro ⟨line, hmem⟩
    obtain ⟨m, hm, rfl⟩ := List.mem_map.mp hmem
    obtain ⟨front, country, body, back, hoccurs, htext⟩ := exists_occurrence_of_mem_findAll hm
    rw [toList_normalize, htext, String.toList_ofList]
    exact hoccurs.reportable
  · exact fun h => ⟨raw, h.mem_candidates hcanonical⟩

end InvoiceFields.TaxId
