import InvoiceFields.Proofs.TaxId.Recognition
import InvoiceFields.Proofs.Text.CapitalLetters

/-!
# Bare identifiers

A text is `Bare` when it is one token from end to end. Every identifier in canonical form is bare
(`bare_of_normalize_eq`), but not every text that is recognised as an identifier.
-/

namespace InvoiceFields.TaxId

open Text (byteLength upperChars)

variable {cs id front country body back : List Char} {c : Char} {raw : String}

/-- A text that is nothing but an identifier: its capitals are a token, with a country or without
one, and have as many bytes as the text. -/
structure Bare (raw : String) : Prop where
  isToken : ∃ country body, IsCountry country ∧ Token body ∧
    upperChars raw.toList = country ++ body
  byteLength_eq : byteLength (upperChars raw.toList) = byteLength raw.toList

/-! ### The characters of recognised texts -/

/-- The characters of a recognised text are ASCII characters or digits. -/
theorem Recognized.utf8Size_eq (h : Recognized cs id) :
    ∀ c ∈ cs, c.utf8Size = 1 ∨ Text.isDecimalDigit c = true := by
  intro c hc
  cases hseparator : isSeparator c with
  | true =>
    simp only [isSeparator, Bool.or_eq_true, beq_iff_eq] at hseparator
    rcases hseparator with ((rfl | rfl) | rfl) | rfl <;> exact .inl rfl
  | false =>
    have hjoined : c ∈ joined cs := List.mem_filter.mpr ⟨hc, by rw [hseparator]; rfl⟩
    obtain ⟨hshaped, heq | ⟨heq, -⟩⟩ := h
    · exact hshaped.utf8Size_eq c (heq ▸ hjoined)
    · rw [heq, List.mem_cons, List.mem_cons] at hjoined
      rcases hjoined with rfl | rfl | hid
      · exact .inl rfl
      · exact .inl rfl
      · exact hshaped.utf8Size_eq c hid

/-- The identifier is made of characters of the text. -/
theorem Recognized.mem_of_mem (h : Recognized cs id) (hc : c ∈ id) : c ∈ cs := by
  have hjoined : c ∈ joined cs := by
    obtain ⟨-, heq | ⟨heq, -⟩⟩ := h
    · rwa [heq]
    · rw [heq]
      exact List.mem_cons_of_mem _ (List.mem_cons_of_mem _ hc)
  exact (List.mem_filter.mp hjoined).1

/-- An identifier has a capital from `A` to `Z`. -/
theorem Shaped.exists_capital (h : Shaped id) : ∃ c ∈ id, isCapital c = true := by
  cases h with
  | company hkind => exact ⟨_, List.mem_cons_self, isCapital_of_isCompanyKind hkind⟩
  | foreigner hkind => exact ⟨_, List.mem_cons_self, isCapital_of_isForeignerKind hkind⟩
  | person _ hcontrol => exact ⟨_, List.mem_append_right _ List.mem_cons_self, hcontrol⟩

/-- A recognised text has letters. -/
theorem any_isLetter_of_isTaxId (h : isTaxId raw = true) : raw.toList.any Text.isLetter = true := by
  have hid := recognized_of_isTaxId h
  obtain ⟨capital, hcapital, hrange⟩ := hid.1.exists_capital
  obtain ⟨c, hc, hmem⟩ := List.mem_flatMap.mp (hid.mem_of_mem hcapital)
  obtain ⟨hlow, hhigh⟩ := Bool.and_eq_true_iff.mp hrange
  exact List.any_eq_true.mpr ⟨c, hc,
    Text.isLetter_of_mem_upperChar hmem (of_decide_eq_true hlow) (of_decide_eq_true hhigh)⟩

/-! ### Texts that are one token -/

/-- A token from end to end stands in the text, with nothing around it. -/
theorem occurrence_of_eq (hcountry : IsCountry country) (hbody : Token body)
    (htext : cs = country ++ body) : Occurrence cs [] country body [] :=
  ⟨by rw [htext, List.append_nil, List.nil_append], hcountry, hbody, rfl, rfl⟩

/-- In a recognised text that is one token from end to end, nothing is around the token that stands
farthest in front. -/
theorem Occurrence.eq_nil_of_isToken {country' body' : List Char} (hid : Recognized cs id)
    (h : Occurrence cs front country body back)
    (hfirst : ∀ front' country' body' back', Occurrence cs front' country' body' back' →
      front.length ≤ front'.length)
    (hcountry' : IsCountry country') (hbody' : Token body') (htext : cs = country' ++ body') :
    front = [] ∧ back = [] := by
  obtain rfl : front = [] := List.eq_nil_of_length_eq_zero
    (Nat.le_zero.mp (hfirst _ _ _ _ (occurrence_of_eq hcountry' hbody' htext)))
  refine ⟨rfl, ?_⟩
  rcases h.cases_of_recognized hid with ⟨-, hback, -⟩ | ⟨-, hfront, -⟩
  · rcases List.eq_nil_or_concat back with hnil | ⟨rest, last, rfl⟩
    · exact hnil
    · -- the text would end in a separator and in a word character
      obtain ⟨init, c, rfl, hc⟩ := hbody'.exists_last
      have hwhole := h.text_eq.symm.trans htext
      have hends : (country ++ body ++ rest) ++ [last] = (country' ++ init) ++ [c] := by
        simpa using hwhole
      obtain ⟨-, hlast⟩ := List.append_inj' hends rfl
      obtain rfl := List.singleton_inj.mp hlast
      have hseparator := joined_eq_nil_iff.mp hback last (by simp)
      rw [isWordChar_of_isSeparator hseparator] at hc
      exact nomatch hc
  · exact nomatch hfront

/-- An identifier is a token without marks. -/
theorem Shaped.token (h : Shaped cs) : Token cs := by
  have hnone : IsMark [] := List.mem_cons_self
  cases h with
  | company hkind hnumber hcontrol => exact .lettered (.inl ⟨hkind, hcontrol⟩) hnone hnumber hnone
  | foreigner hkind hnumber hcontrol => exact .lettered (.inr ⟨hkind, hcontrol⟩) hnone hnumber hnone
  | person hnumber hcontrol => exact .person hnumber hnone hcontrol

/-- An identifier in canonical form is bare. -/
theorem bare_of_normalize_eq (h : isTaxId raw = true) (hcanonical : normalize raw = raw) :
    Bare raw := by
  have hid := recognized_of_isTaxId h
  rw [← toList_normalize, hcanonical] at hid
  have hcapitals : upperChars raw.toList = raw.toList := by
    refine Text.upperChars_eq_self fun c hc => ?_
    obtain ⟨d, -, hd⟩ := List.mem_flatMap.mp (hid.mem_of_mem hc)
    exact Text.upperChar_of_mem hd
  exact ⟨⟨[], raw.toList, .inl rfl, hid.1.token, hcapitals⟩, congrArg byteLength hcapitals⟩

end InvoiceFields.TaxId
