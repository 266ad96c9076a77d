import InvoiceFields.Proofs.Decimal.Rereading
import InvoiceFields.Proofs.Pattern.Characters
import InvoiceFields.Proofs.Pipeline.Provenance
import InvoiceFields.Proofs.Text.Blanks
import InvoiceFields.Report.Document

/-!
# The end of a table

The table of a report is written without the blanks at its end. No value of the last field ends in
a blank, whatever it comes from (`Pipeline.closed_fees_of_reported`), so only the line break of the
last record is left out (`Report.toTable_append_newline`).
-/

namespace InvoiceFields

open Text (Closed isBlank)

/-! ### Cells -/

namespace Csv

theorem closed_cellChars {cs : List Char} (h : Closed cs) : Closed (cellChars cs) := by
  rw [cellChars]
  split
  case isTrue => exact Closed.append_cons (Text.closed_of_forall (List.forall_mem_nil _)) rfl
  case isFalse => exact h

/-- Cells end in no blank if the last one does not. An empty one stands behind a comma. -/
theorem closed_cellsChars : ∀ cells : List String,
    (∀ cell, cells.getLast? = some cell → Closed cell.toList) → Closed (cellsChars cells)
  | [], _ => Text.closed_of_forall (List.forall_mem_nil _)
  | [_], h => closed_cellChars (h _ rfl)
  | _ :: b :: cells, h => Closed.append_cons (closed_cellsChars (b :: cells) h) rfl

theorem recordChars_ne_nil (cells : List String) : recordChars cells ≠ [] := by
  unfold recordChars
  split
  · exact List.cons_ne_nil _ _
  · exact List.append_ne_nil_of_right_ne_nil _ (List.cons_ne_nil _ _)

/-- A table with a record is not empty. -/
theorem table_ne_empty {cells : List String} {records : List (List String)} :
    table (cells :: records) ≠ "" := by
  intro h
  have hchars := congrArg String.toList h
  rw [table, String.toList_ofList, List.flatMap_cons] at hchars
  exact recordChars_ne_nil cells (List.append_eq_nil_iff.mp hchars).1

/-- Of a table whose last cell ends in no blank only the last line break is dropped. -/
theorem dropEndWhile_table (records : List (List String)) {a b : String} {cells : List String}
    (h : ∀ cell, (b :: cells).getLast? = some cell → Closed cell.toList) :
    String.ofList (Text.dropEndWhile isBlank (table (records ++ [a :: b :: cells])).toList) ++
      "\n" = table (records ++ [a :: b :: cells]) := by
  have hclosed : Closed (records.flatMap recordChars ++ cellsChars (a :: b :: cells)) :=
    (closed_cellsChars (a :: b :: cells) h).append
      (List.append_ne_nil_of_right_ne_nil _ (List.cons_ne_nil _ _))
  have htable : (table (records ++ [a :: b :: cells])).toList =
      records.flatMap recordChars ++ cellsChars (a :: b :: cells) ++ ['\n'] := by
    have hlast : recordChars (a :: b :: cells) = cellsChars (a :: b :: cells) ++ ['\n'] := by
      unfold recordChars
      split
      case h_1 heq => exact nomatch heq
      case h_2 => rfl
    rw [table, String.toList_ofList, List.flatMap_append, List.flatMap_singleton, hlast,
      List.append_assoc]
  have hbreak : ∀ c ∈ ['\n'], isBlank c = true := List.forall_mem_singleton.mpr rfl
  refine String.toList_injective ?_
  rw [String.toList_append, String.toList_ofList, htable, Text.dropEndWhile_append hclosed,
    Text.dropEndWhile_eq_nil hbreak, List.append_nil]
  rfl

end Csv

/-! ### Values -/

theorem FieldValue.closed_shown_amount (d : Decimal) : Closed (amount d).shown.toList := by
  rw [shown, Decimal.text, String.toList_ofList]
  exact Text.closed_of_forall fun _ => d.isBlank_of_mem_chars

namespace Pattern

/-- A tax identifier is matched without blanks. -/
theorem within_taxIdToken : taxIdToken.Within (isBlank · = false) := by
  have hletter : ∀ c : Char, 'A' ≤ c → c ≤ 'Z' → isBlank c = false := fun c hlow hhigh =>
    Text.isBlank_of_printed (Nat.le_trans (by decide) hlow) (Nat.le_trans hhigh (by decide))
  have hcapital : capital.Within (isBlank · = false) := by
    intro c hc
    obtain ⟨hlow, hhigh⟩ := Bool.and_eq_true_iff.mp hc
    exact hletter c (of_decide_eq_true hlow) (of_decide_eq_true hhigh)
  have hcontrol : companyControl.Within (isBlank · = false) := by
    intro c hc
    rcases Bool.or_eq_true_iff.mp hc with hdigit | hc
    · exact Text.isBlank_of_isAsciiDigit hdigit
    · obtain ⟨hlow, hhigh⟩ := Bool.and_eq_true_iff.mp hc
      exact hletter c (of_decide_eq_true hlow)
        (Char.le_trans (of_decide_eq_true hhigh) (by decide))
  have hdigit : digit.Within (isBlank · = false) := fun _ => Text.isBlank_of_isDecimalDigit
  have hcompany : companyLetter.Within (isBlank · = false) := within_anyOf (Text.isBlank_of_all rfl)
  have hforeigner : foreignerLetter.Within (isBlank · = false) :=
    within_anyOf (Text.isBlank_of_all rfl)
  have hseparator : separator.Within (isBlank · = false) :=
    within_optional.mpr (within_anyOf (Text.isBlank_of_all rfl))
  have hboundary : boundary.Within (isBlank · = false) := trivial
  have hcountry : isBlank 'E' = false ∧ isBlank 'S' = false := by decide
  simp [taxIdToken, hboundary, hcountry, hcompany, hforeigner, hdigit, hseparator, hcapital,
    hcontrol]

/-- The digits and the letters of a plate are no blanks. -/
theorem groupWithin_plateToken {n : Nat} : plateToken.GroupWithin (isBlank · = false) n := by
  have hdigit : digit.Within (isBlank · = false) := fun _ => Text.isBlank_of_isDecimalDigit
  have hletter : (anyCaseOf "bcdfghjklmnprstvwxyz").Within (isBlank · = false) :=
    within_anyCaseOf (Text.isBlank_of_all rfl)
  exact ⟨trivial, ⟨fun _ => within_times.mpr hdigit, groupWithin_times_one 4⟩,
    ⟨trivial, trivial⟩, ⟨fun _ => within_times.mpr hletter, groupWithin_times_one 3⟩, trivial⟩

end Pattern

/-- A candidate for a tax identifier has no blanks. -/
theorem TaxId.isBlank_of_mem_candidates {line id : String} {c : Char}
    (h : id ∈ candidates line) (hc : c ∈ id.toList) : isBlank c = false := by
  obtain ⟨m, hm, rfl⟩ := List.mem_map.mp h
  rw [toList_normalize] at hc
  exact isBlank_of_mem_normalizeChars (Pattern.forall_mem_span Pattern.within_taxIdToken hm) hc

/-- A plate has no blanks. -/
theorem Plate.isBlank_of_find? {line plate : String} {c : Char} (h : find? line = some plate)
    (hc : c ∈ plate.toList) : isBlank c = false := by
  obtain ⟨m, hm, rfl⟩ := Option.map_eq_some_iff.mp h
  have hgroup : ∀ n, ∀ c ∈ (m.groupText n).toList, isBlank c = false := fun n =>
    Pattern.forall_mem_groupText Pattern.groupWithin_plateToken (List.mem_of_mem_head? hm)
  rw [String.toList_append, Text.upper, String.toList_ofList] at hc
  rcases List.mem_append.mp hc with hc | hc
  · exact hgroup 1 c hc
  · exact Text.isBlank_of_mem_upperChars (hgroup 2) hc

/-- What an override finds ends in no blank. -/
theorem Override.closed_shown {doc : Document} {settings : Settings} {o : Override}
    {v : FieldValue} (h : o.apply doc settings = .ok (some v)) : Closed v.shown.toList := by
  cases o with
  | lastAmountOnTotalLine =>
    obtain ⟨d, -, rfl⟩ := Option.map_eq_some_iff.mp (Except.ok.inj h)
    exact FieldValue.closed_shown_amount d
  | issuerTaxIdScan =>
    obtain ⟨id, hid, h⟩ := bind_eq_ok.mp h
    obtain ⟨id, rfl, rfl⟩ := Option.map_eq_some_iff.mp (pure_eq_ok.mp h)
    obtain ⟨line, -, hcandidate, -⟩ := TaxId.Search.firstIn_eq_ok_some hid
    exact Text.closed_of_forall fun c hc => TaxId.isBlank_of_mem_candidates hcandidate hc
  | plateScan =>
    obtain ⟨plate, hplate, rfl⟩ := Option.map_eq_some_iff.mp (Except.ok.inj h)
    obtain ⟨line, -, hfind⟩ := List.exists_of_findSome?_eq_some hplate
    exact Text.closed_of_forall fun c hc => Plate.isBlank_of_find? hfind hc
  | invoiceNumberJoined =>
    obtain ⟨number, hnumber, rfl⟩ := Option.map_eq_some_iff.mp (Except.ok.inj h)
    obtain ⟨hnumber, -⟩ := Option.filter_eq_some_iff.mp hnumber
    obtain ⟨line, -, hline⟩ := List.exists_of_findSome?_eq_some hnumber
    obtain ⟨m, -, rfl⟩ := Option.map_eq_some_iff.mp hline
    refine Text.closed_of_forall fun c hc => ?_
    rw [FieldValue.shown, String.toList_ofList] at hc
    exact (Bool.not_eq_true' _).mp (List.mem_filter.mp hc).2
  | clientAfterAnchor =>
    obtain ⟨line, hline, rfl⟩ := Option.map_eq_some_iff.mp (Except.ok.inj h)
    obtain ⟨anchor, -, hline⟩ := Option.bind_eq_some_iff.mp hline
    obtain ⟨raw, -, rfl⟩ := List.mem_map.mp (List.mem_of_find?_eq_some hline)
    rw [FieldValue.shown, Text.trim, String.toList_ofList]
    exact Text.closed_trimChars

/-! ### Reports -/

/-- The value of the last field, if there is one, ends in no blank. -/
def Extraction.LastClosed (e : Extraction) : Prop :=
  ∀ v, e.get? .fees = some v → Closed v.shown.toList

/-- The last field that is reported ends in no blank: an amount does not, and neither does a text
that an override puts there. -/
theorem Pipeline.lastClosed_of_reported {p : Pipeline} {doc : Document} {source : Option String}
    {level : LogLevel} {answer : Except Failure Outcome} {e : Extraction}
    (h : p.run doc source level = .ok answer) (he : reported? answer = some e) : e.LastClosed := by
  have hholds : ∀ v, Field.fees.Holds v → Closed v.shown.toList := by
    intro v hv
    cases v with
    | amount d => exact FieldValue.closed_shown_amount d
    | text s => exact nomatch hv
  obtain ⟨outcome, hextracted, -, rfl⟩ := exists_extracted_of_reported h he
  have hall : outcome.fields.Forall fun f v => f = .fees → Closed v.shown.toList := by
    refine hextracted.forall_fields (fun profile found _ hfound => ?_) (fun e hscan f v hv => ?_)
      (fun f d _ _ => FieldValue.closed_shown_amount d)
    · refine Profile.forall_resolve (fun f a v hv => ?_) (fun f o v _ hv _ _ => ?_) hfound
      · rintro rfl
        exact hholds v (Attempt.holds_of_value? hv)
      · exact Override.closed_shown hv
    · rintro rfl
      exact hholds v (Heuristics.holds_of_scan hscan .fees v hv)
  exact fun v hv => hall .fees v hv rfl

/-- The table of a report, with a line break behind it, is a table of two records. -/
theorem Report.toTable_append_newline {r : Report} (h : r.fields.LastClosed) :
    r.toTable ++ "\n" = Csv.table [header, r.source :: r.fields.row] := by
  refine Csv.dropEndWhile_table [header] fun cell hcell => ?_
  have hfees : ((r.fields.get? .fees).map (·.shown)).getD "" = cell := Option.some.inj hcell
  rw [← hfees]
  cases hv : r.fields.get? .fees with
  | none => exact Text.closed_of_forall (List.forall_mem_nil _)
  | some v => exact h v hv

end InvoiceFields
