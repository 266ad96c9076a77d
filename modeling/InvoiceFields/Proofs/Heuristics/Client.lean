import InvoiceFields.Proofs.Heuristics.Scan
import InvoiceFields.Proofs.TaxId.Bare

/-!
# Identifiers in place of the client's name

What stands behind a client header may be an identifier and no name. The heuristics turn it down
only if it is bare: other texts that are recognised as identifiers, such as one with points between
its digits, pass for names (`client_eq_iff`).
-/

namespace InvoiceFields.Heuristics

open Text (byteLength upperChars)

variable {doc : Document} {settings : Settings} {e : Extraction} {raw : String}

/-- A text that is recognised as an identifier passes for a name unless it is bare. -/
theorem isName_iff_of_isTaxId (h : TaxId.isTaxId raw = true) :
    isName raw = true ↔ ¬ TaxId.Bare raw := by
  have hid := TaxId.recognized_of_isTaxId h
  have hle := Text.byteLength_upperChars_le hid.utf8Size_eq
  rw [isName, TaxId.any_isLetter_of_isTaxId h, Bool.true_and, Pattern.find?]
  rcases TaxId.findAll_cases (upperChars raw.toList) with ⟨hfind, hnone⟩ |
    ⟨front, country, body, back, m, ms, hoccurs, hfirst, hfind, htext, -⟩
  · rw [hfind]
    refine iff_of_true rfl ?_
    rintro ⟨⟨country, body, hcountry, hbody, hwhole⟩, -⟩
    exact hnone _ _ _ _ (TaxId.occurrence_of_eq hcountry hbody hwhole)
  · have hbytes : byteLength (upperChars raw.toList) =
        byteLength front + (byteLength (country ++ body) + byteLength back) := by
      rw [hoccurs.text_eq, ← List.append_assoc country, Text.byteLength_append,
        Text.byteLength_append (country ++ body)]
    rw [hfind, List.head?_cons]
    simp only [htext, Text.utf8ByteSize_ofList, ← Text.byteLength_toList raw, decide_eq_true_iff]
    constructor
    · rintro hlt ⟨⟨country', body', hcountry', hbody', hwhole⟩, heq⟩
      obtain ⟨rfl, rfl⟩ := hoccurs.eq_nil_of_isToken hid hfirst hcountry' hbody' hwhole
      simp only [byteLength] at hbytes
      omega
    · intro hbare
      by_contra hge
      -- then nothing is around the token, and the capitals have not become shorter
      obtain rfl : front = [] := Text.byteLength_eq_zero.mp (by omega)
      obtain rfl : back = [] := Text.byteLength_eq_zero.mp (by omega)
      have hwhole : upperChars raw.toList = country ++ body := by
        rw [hoccurs.text_eq, List.append_nil, List.nil_append]
      exact hbare ⟨⟨country, body, hoccurs.isCountry, hoccurs.token, hwhole⟩, by omega⟩

/-- **Identifiers for names.** A text that is recognised as an identifier is reported as the client
exactly if it stands for the client and is not bare. -/
theorem client_eq_iff (h : scan doc settings = .ok e) (hid : TaxId.isTaxId raw = true) :
    e.get? .client = some (.text raw) ↔ clientText? doc = some raw ∧ ¬ TaxId.Bare raw := by
  obtain ⟨issuerTaxId, clientTaxId, -, -, hget⟩ := scan_eq_ok.mp h
  rw [hget, scanned?, client?_eq_filter, ← isName_iff_of_isTaxId hid]
  constructor
  · intro hclient
    obtain ⟨name, hname, heq⟩ := Option.map_eq_some_iff.mp hclient
    cases heq
    exact Option.filter_eq_some_iff.mp hname
  · intro hname
    rw [Option.filter_eq_some_iff.mpr hname, Option.map_some]

/-- An identifier behind the header is no client. -/
theorem client_eq_iff_canonical :
    ∃ e, scan ⟨["Cliente B12345674"]⟩ .standard = .ok e ∧ TaxId.isTaxId "B12345674" = true ∧
      clientText? ⟨["Cliente B12345674"]⟩ = some "B12345674" ∧
      e.get? .client ≠ some (.text "B12345674") := by
  have hcheck : (scan ⟨["Cliente B12345674"]⟩ .standard).toOption.any (fun _ => true) = true := by
    decide +kernel
  have hid : TaxId.isTaxId "B12345674" = true := by decide +kernel
  have hcanonical : TaxId.normalize "B12345674" = "B12345674" := by decide +kernel
  obtain ⟨e, hscan, -⟩ := exists_eq_ok_of_any hcheck
  refine ⟨e, hscan, hid, by decide +kernel, fun hclient => ?_⟩
  exact ((client_eq_iff hscan hid).mp hclient).2 (TaxId.bare_of_normalize_eq hid hcanonical)

/-- An identifier with points between its digits is reported as the client. -/
theorem exists_client_isTaxId :
    ¬ ∀ doc settings e c, scan doc settings = .ok e → e.get? .client = some (.text c) →
      TaxId.isTaxId c = false := by
  intro h
  have hcheck : ((scan ⟨["Cliente: B-12.345.674"]⟩ .standard).toOption.any fun e =>
      decide (e.get? .client = some (.text "B-12.345.674"))) = true := by decide +kernel
  obtain ⟨e, hscan, hclient⟩ := exists_eq_ok_of_any hcheck
  have hid : TaxId.isTaxId "B-12.345.674" = true := by decide +kernel
  rw [h _ _ e _ hscan (of_decide_eq_true hclient)] at hid
  exact Bool.false_ne_true hid

/-- So are an identifier with a point behind it and one whose capitals are shorter. -/
example : ["B12345674.", "ſ1234567J"].all (fun c => TaxId.isTaxId c && isName c) = true := by
  decide +kernel

end InvoiceFields.Heuristics
