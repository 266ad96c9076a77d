import InvoiceFields.Document
import InvoiceFields.Proofs.Text.Words

/-!
# Lines

A text is read line by line: in front of its first line feed stands a line, whatever carriage
returns stand between them, and behind it the other lines (`lines_append_feed`). So lines with any
line breaks between them are found again (`lines_join`), and a line break behind the last one makes
no difference (`lines_join_append`). A document does not show how the lines of its text were broken
(`ofText_lineBreaks`).
-/

namespace InvoiceFields

namespace Text

variable {cs rest piece : List Char} {pieces : List (List Char)} {s line sep sep' : String}
variable {ls : List String}

/-! ### Pieces between line feeds -/

theorem linesOfPieces_cons (h : pieces ≠ []) :
    linesOfPieces (piece :: pieces) = dropReturn piece :: linesOfPieces pieces := by
  obtain ⟨next, pieces, rfl⟩ := List.exists_cons_of_ne_nil h
  rfl

/-- A line that ends in no carriage return is not changed. -/
theorem dropReturn_eq_self (h : cs.getLast? ≠ some '\r') : dropReturn cs = cs := if_neg h

theorem dropReturns_eq_self (h : cs.getLast? ≠ some '\r') :
    dropEndWhile (· == '\r') cs = cs :=
  dropEndWhile_eq_self fun _ hc => beq_false_of_ne fun heq => h (heq ▸ hc)

/-- The carriage return of a line break is dropped with those in front of it. -/
theorem dropEndWhile_dropReturn (cs : List Char) :
    dropEndWhile (· == '\r') (dropReturn cs) = dropEndWhile (· == '\r') cs := by
  by_cases h : cs.getLast? = some '\r'
  · obtain ⟨init, rfl⟩ := List.getLast?_eq_some_iff.mp h
    rw [dropReturn, if_pos h, List.dropLast_concat,
      dropEndWhile_append_of_pos (List.forall_mem_singleton.mpr rfl)]
  · rw [dropReturn_eq_self h]

/-- A piece is a line, if it is not empty and ends in no carriage return. -/
theorem mem_linesOfPieces (h : piece ∈ pieces) (hne : piece ≠ [])
    (hlast : piece.getLast? ≠ some '\r') : piece ∈ linesOfPieces pieces := by
  fun_induction linesOfPieces pieces with
  | case1 => exact h
  | case2 last hempty =>
    rw [List.mem_singleton.mp h] at hne
    exact absurd (List.isEmpty_iff.mp hempty) hne
  | case3 => exact h
  | case4 first pieces _ ih =>
    rcases List.mem_cons.mp h with rfl | h
    · rw [dropReturn_eq_self hlast]
      exact List.mem_cons_self
    · exact List.mem_cons_of_mem _ (ih h)

/-- A piece between line breaks is a line, if it is not empty and ends in no carriage return. -/
theorem mem_lines (h : cs ∈ splitWhere (· == '\n') s.toList) (hne : cs ≠ [])
    (hlast : cs.getLast? ≠ some '\r') : String.ofList cs ∈ lines s :=
  List.mem_map.mpr ⟨cs, mem_linesOfPieces h hne hlast, by rw [dropReturns_eq_self hlast]⟩

/-! ### One line after the other -/

private theorem ne_feed (h : '\n' ∉ cs) : ∀ c ∈ cs, (c == '\n') = false := fun _ hc =>
  beq_false_of_ne (ne_of_mem_of_not_mem hc h)

/-- The text in front of a line feed is a line. -/
theorem lines_append_feed (h : '\n' ∉ cs) : lines (.ofList (cs ++ '\n' :: rest)) =
    .ofList (dropEndWhile (· == '\r') cs) :: lines (.ofList rest) := by
  rw [lines, lines, String.toList_ofList, String.toList_ofList, splitWhere_append rfl,
    splitWhere_eq_singleton (ne_feed h), List.singleton_append,
    linesOfPieces_cons splitWhere_ne_nil, List.map_cons, dropEndWhile_dropReturn]

/-- The text behind the last line feed is a line unless it is empty. -/
theorem lines_unbroken (hne : cs ≠ []) (h : '\n' ∉ cs) :
    lines (.ofList cs) = [.ofList (dropEndWhile (· == '\r') cs)] := by
  rw [lines, String.toList_ofList, splitWhere_eq_singleton (ne_feed h), linesOfPieces,
    if_neg (by rwa [List.isEmpty_iff]), List.map_singleton]

/-- What holds of a text without line feeds, and of a text in front of which a line is put if it
holds of this text, holds of every text. -/
theorem lineByLine {motive : List Char → Prop} (last : ∀ cs, '\n' ∉ cs → motive cs)
    (line : ∀ cs rest, '\n' ∉ cs → motive rest → motive (cs ++ '\n' :: rest)) (cs : List Char) :
    motive cs := by
  induction hlength : cs.length using Nat.strong_induction_on generalizing cs with
  | _ n ih =>
    by_cases hfeed : '\n' ∈ cs
    · obtain ⟨first, rest, rfl, hfirst⟩ := List.eq_append_cons_of_mem hfeed
      refine line first rest hfirst (ih rest.length ?_ rest rfl)
      rw [← hlength, List.length_append, List.length_cons]
      omega
    · exact last cs hfeed

/-- A text that can be a line. -/
structure IsLine (line : String) : Prop where
  unbroken : '\n' ∉ line.toList
  closed : line.toList.getLast? ≠ some '\r'

instance : DecidablePred IsLine := fun line =>
  decidable_of_iff ('\n' ∉ line.toList ∧ line.toList.getLast? ≠ some '\r')
    ⟨fun h => ⟨h.1, h.2⟩, fun h => ⟨h.unbroken, h.closed⟩⟩

/-- What is read as a line can be one. -/
theorem isLine_of_mem_lines (h : line ∈ lines s) : IsLine line := by
  have hline : ∀ cs : List Char, '\n' ∉ cs →
      IsLine (.ofList (dropEndWhile (· == '\r') cs)) := by
    intro cs hcs
    refine ⟨?_, ?_⟩
    · rw [String.toList_ofList]
      have hkept := dropEndWhile_prefix (· == '\r') cs
      exact fun hmem => hcs (hkept.subset hmem)
    · rw [String.toList_ofList]
      exact fun hlast => Bool.false_ne_true (not_of_getLast?_dropEndWhile hlast).symm
  rw [← String.ofList_toList (s := s)] at h
  generalize s.toList = cs at h
  induction cs using lineByLine with
  | last cs hcs =>
    rcases eq_or_ne cs [] with rfl | hne
    · exact nomatch h
    · rw [lines_unbroken hne hcs, List.mem_singleton] at h
      exact h ▸ hline cs hcs
  | line cs rest hcs ih =>
    rw [lines_append_feed hcs] at h
    rcases List.mem_cons.mp h with rfl | h
    · exact hline cs hcs
    · exact ih h

/-! ### Line breaks -/

/-- A line feed with carriage returns in front of it. -/
def IsLineBreak (sep : String) : Prop := ∃ n, sep.toList = List.replicate n '\r' ++ ['\n']

/-- A line break ends a line, whichever it is. -/
theorem lines_append_break (hline : IsLine line) (hsep : IsLineBreak sep) (rest : String) :
    lines (line ++ sep ++ rest) = line :: lines rest := by
  obtain ⟨n, hn⟩ := hsep
  have hchars : (line ++ sep ++ rest).toList =
      (line.toList ++ List.replicate n '\r') ++ '\n' :: rest.toList := by
    rw [String.toList_append, String.toList_append, hn]
    simp only [List.append_assoc, List.singleton_append]
  have hreturn : ∀ c ∈ List.replicate n '\r', c = '\r' := fun _ => List.eq_of_mem_replicate
  have hfeed : '\n' ∉ line.toList ++ List.replicate n '\r' :=
    List.not_mem_append hline.unbroken fun hmem => nomatch hreturn _ hmem
  rw [← String.ofList_toList (s := line ++ sep ++ rest), hchars, lines_append_feed hfeed,
    dropEndWhile_append_of_pos fun c hc => beq_iff_eq.mpr (hreturn c hc),
    dropReturns_eq_self hline.closed, String.ofList_toList, String.ofList_toList]

theorem lines_eq_singleton (hline : IsLine line) (hne : line ≠ "") : lines line = [line] := by
  have hchars : line.toList ≠ [] := fun hnil => hne (String.toList_eq_nil_iff.mp hnil)
  rw [← String.ofList_toList (s := line), lines_unbroken hchars hline.unbroken,
    dropReturns_eq_self hline.closed]

/-- Lines with line breaks between them are found again, if the last one is not empty. -/
theorem lines_join (hlines : ∀ l ∈ ls, IsLine l) (hsep : IsLineBreak sep)
    (hlast : ls.getLast? ≠ some "") : lines (join sep ls) = ls := by
  induction ls with
  | nil => rfl
  | cons line ls ih =>
    obtain ⟨hline, hlines⟩ := List.forall_mem_cons.mp hlines
    cases ls with
    | nil => exact lines_eq_singleton hline fun hempty => hlast (congrArg some hempty)
    | cons next ls =>
      rw [join, String.intercalate_cons_cons, lines_append_break hline hsep]
      exact congrArg (line :: ·) (ih hlines hlast)

/-- Lines with line breaks between them and behind the last one are found again. -/
theorem lines_join_append (hlines : ∀ l ∈ ls, IsLine l) (hsep : IsLineBreak sep)
    (hsep' : IsLineBreak sep') (hne : ls ≠ []) : lines (join sep ls ++ sep') = ls := by
  induction ls with
  | nil => exact absurd rfl hne
  | cons line ls ih =>
    obtain ⟨hline, hlines⟩ := List.forall_mem_cons.mp hlines
    cases ls with
    | nil =>
      have hend := lines_append_break hline hsep' ""
      rwa [String.append_empty] at hend
    | cons next ls =>
      rw [join, String.intercalate_cons_cons, String.append_assoc, lines_append_break hline hsep]
      exact congrArg (line :: ·) (ih hlines (List.cons_ne_nil _ _))

/-! ### Line feeds with carriage returns -/

/-- A text with a carriage return in front of every line feed. -/
def withReturns (s : String) : String := .ofList (replaceChar '\n' ['\r', '\n'] s.toList)

/-- Carriage returns in front of the line feeds make no other lines. -/
theorem lines_withReturns (s : String) : lines (withReturns s) = lines s := by
  have hchars : ∀ cs : List Char,
      lines (.ofList (replaceChar '\n' ['\r', '\n'] cs)) = lines (.ofList cs) := by
    intro cs
    induction cs using lineByLine with
    | last cs hcs => rw [replaceChar_eq_self hcs]
    | line cs rest hcs ih =>
      have hreturn : '\n' ∉ cs ++ ['\r'] := List.not_mem_append hcs (by decide)
      have hfirst : replaceChar '\n' ['\r', '\n'] (cs ++ '\n' :: rest) =
          (cs ++ ['\r']) ++ '\n' :: replaceChar '\n' ['\r', '\n'] rest := by
        rw [replaceChar_append, replaceChar_eq_self hcs, replaceChar_cons_self, List.append_assoc]
        rfl
      rw [hfirst, lines_append_feed hreturn, lines_append_feed hcs, ih,
        dropEndWhile_append_of_pos (List.forall_mem_singleton.mpr rfl)]
  rw [withReturns, hchars, String.ofList_toList]

end Text

/-! ### Documents -/

namespace Document

/-- A line feed is a line break, also behind a carriage return. -/
private theorem isLineBreak_of_mem {sep : String} (h : sep ∈ ["\n", "\r\n"]) :
    Text.IsLineBreak sep := by
  rcases List.mem_cons.mp h with rfl | h
  · exact ⟨0, rfl⟩
  · obtain rfl := List.mem_singleton.mp h
    exact ⟨1, rfl⟩

/-- **Line breaks.** The lines of a document hold no line feed and end in no carriage return, and
they are the same if every line feed is preceded by a carriage return. A list of such lines is found
again in a text that has a break between neighbours, if the last line is not empty or is broken as
well. The empty list is left out behind a final break, because there is no last line that it could
end: such a break on its own is an empty line. -/
theorem ofText_lineBreaks :
    (∀ text, ∀ line ∈ (ofText text).lines, Text.IsLine line) ∧
    (∀ text, ofText (Text.withReturns text) = ofText text) ∧
    ∀ ls : List String, (∀ line ∈ ls, Text.IsLine line) → ∀ sep ∈ ["\n", "\r\n"],
      (ls.getLast? ≠ some "" → ofText (Text.join sep ls) = ⟨ls⟩) ∧
      (ls ≠ [] → ∀ final ∈ ["\n", "\r\n"], ofText (Text.join sep ls ++ final) = ⟨ls⟩) := by
  refine ⟨fun _ _ => Text.isLine_of_mem_lines, fun text => ?_, fun ls hls sep hsep =>
    ⟨fun hlast => ?_, fun hne final hfinal => ?_⟩⟩
  · exact congrArg mk (Text.lines_withReturns text)
  · exact congrArg mk (Text.lines_join hls (isLineBreak_of_mem hsep) hlast)
  · exact congrArg mk
      (Text.lines_join_append hls (isLineBreak_of_mem hsep) (isLineBreak_of_mem hfinal) hne)

/-- Lines with an empty one among them, broken in both ways. -/
theorem ofText_lineBreaks_empty_line :
    (∀ line ∈ ["FACTURA", "", "A\rB"], Text.IsLine line) ∧
    ofText "FACTURA\n\nA\rB" = ⟨["FACTURA", "", "A\rB"]⟩ ∧
    ofText "FACTURA\r\n\r\nA\rB\n" = ⟨["FACTURA", "", "A\rB"]⟩ := by
  have hls : ∀ line ∈ ["FACTURA", "", "A\rB"], Text.IsLine line := by decide
  have hbreaks := ofText_lineBreaks.2.2 _ hls
  exact ⟨hls, (hbreaks "\n" (by decide)).1 (by decide),
    (hbreaks "\r\n" (by decide)).2 (by decide) "\n" (by decide)⟩

end Document

end InvoiceFields
