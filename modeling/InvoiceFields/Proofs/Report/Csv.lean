import InvoiceFields.Report.Csv

/-!
# Reading tables of comma-separated values

`Csv.read` reads a table as RFC 4180 has it, with records that are ended by a line feed. A table
that is written is read as the records it was written from (`Csv.read_table`).
-/

namespace InvoiceFields.Csv

/-! ### The reader -/

/-- What a reader has seen of a cell. -/
inductive CellState where
  /-- Nothing. -/
  | start
  /-- Characters of a cell without quotes. -/
  | plain
  /-- A quote and characters behind it. -/
  | quoted
  /-- A quote inside or at the end of a cell with quotes. -/
  | closing

/-- Reads the records of a table. `cell` holds the characters of the cell so far, and `record` the
cells of the record in front of it. A quote may not stand in a cell without quotes, nor may a
carriage return, and behind the quote at the end of a cell the cell must end. -/
def readChars (state : CellState) (cell : List Char) (record : List String) :
    List Char → Option (List (List String))
  | [] =>
    match state with
    | .quoted => none
    | .start => some (if record.isEmpty then [] else [record ++ [String.ofList cell]])
    | .plain | .closing => some [record ++ [String.ofList cell]]
  | c :: cs =>
    match state with
    | .quoted =>
      if c = '"' then readChars .closing cell record cs
      else readChars .quoted (cell ++ [c]) record cs
    | _ =>
      if c = ',' then readChars .start [] (record ++ [String.ofList cell]) cs
      else if c = '\n' then
        (readChars .start [] [] cs).map ((record ++ [String.ofList cell]) :: ·)
      else match state with
        | .closing => if c = '"' then readChars .quoted (cell ++ ['"']) record cs else none
        | .start =>
          if c = '"' then readChars .quoted cell record cs
          else if c = '\x0d' then none
          else readChars .plain (cell ++ [c]) record cs
        | _ => if c = '"' ∨ c = '\x0d' then none else readChars .plain (cell ++ [c]) record cs

/-- Reads the records of a table. -/
def read (text : String) : Option (List (List String)) := readChars .start [] [] text.toList

variable {cs rest cell : List Char} {record cells : List String} {records : List (List String)}
  {state : CellState}

/-! ### Cells -/

/-- Characters that end a cell. -/
def EndsCell (rest : List Char) : Prop := rest.head? = some ',' ∨ rest.head? = some '\n'

theorem not_special {c : Char} (h : isSpecial c = false) :
    c ≠ ',' ∧ c ≠ '"' ∧ c ≠ '\n' ∧ c ≠ '\x0d' := by
  simpa [isSpecial, and_assoc] using h

/-- Where a cell may end, it does not matter what has been seen of it. -/
theorem readChars_of_endsCell (h : EndsCell rest) (hstate : state ≠ .quoted) :
    readChars state cell record rest = readChars .start cell record rest := by
  obtain _ | ⟨c, cs⟩ := rest
  · exact nomatch h
  · cases state with
    | quoted => exact absurd rfl hstate
    | start => rfl
    | plain | closing =>
      obtain hc | hc := h <;> cases hc <;> rfl

/-- A cell without quotes. -/
theorem readChars_plain (hend : EndsCell rest) : ∀ {cs : List Char} {cell : List Char}
    {state : CellState}, state = .start ∨ state = .plain → cs.any isSpecial = false →
      readChars state cell record (cs ++ rest) = readChars .start (cell ++ cs) record rest
  | [], cell, state, hstate, _ => by
    rw [List.nil_append, List.append_nil]
    refine readChars_of_endsCell hend ?_
    rcases hstate with rfl | rfl <;> exact nofun
  | c :: cs, cell, state, hstate, hcs => by
    rw [List.any_cons, Bool.or_eq_false_iff] at hcs
    obtain ⟨hcomma, hquote, hline, hreturn⟩ := not_special hcs.1
    have hnext : readChars .plain (cell ++ [c]) record (cs ++ rest) =
      readChars .start (cell ++ [c] ++ cs) record rest := readChars_plain hend (.inr rfl) hcs.2
    rw [List.append_assoc, List.singleton_append] at hnext
    rw [List.cons_append, ← hnext]
    rcases hstate with rfl | rfl <;> simp [readChars, hcomma, hquote, hline, hreturn]

/-- The characters between the quotes of a cell. -/
theorem readChars_doubleQuotes : ∀ {cs cell : List Char},
    readChars .quoted cell record (doubleQuotes cs ++ '"' :: rest) =
      readChars .closing (cell ++ cs) record rest
  | [], cell => by simp [doubleQuotes, readChars]
  | c :: cs, cell => by
    have hnext : readChars .quoted (cell ++ [c]) record (doubleQuotes cs ++ '"' :: rest) =
      readChars .closing (cell ++ [c] ++ cs) record rest := readChars_doubleQuotes
    rw [List.append_assoc, List.singleton_append] at hnext
    rw [doubleQuotes]
    split
    · rename_i hc
      subst hc
      simpa [readChars] using hnext
    · rename_i hc
      simpa [readChars, hc] using hnext

/-- A cell is read as it was written. -/
theorem readChars_cellChars (hend : EndsCell rest) :
    readChars .start [] record (cellChars cs ++ rest) = readChars .start cs record rest := by
  rw [cellChars]
  split
  · have hquotes : readChars .quoted [] record (doubleQuotes cs ++ '"' :: rest) =
      readChars .closing cs record rest := readChars_doubleQuotes
    have hclosing : readChars .closing cs record rest = readChars .start cs record rest :=
      readChars_of_endsCell hend nofun
    rw [← hclosing, ← hquotes]
    simp [readChars]
  · rename_i hcs
    exact readChars_plain hend (.inl rfl) (Bool.eq_false_iff.mpr hcs)

/-! ### Records -/

theorem readChars_cellsChars : ∀ {cells record : List String}, cells ≠ [] →
    readChars .start [] record (cellsChars cells ++ '\n' :: rest) =
      (readChars .start [] [] rest).map ((record ++ cells) :: ·)
  | [], _, h => absurd rfl h
  | [a], record, _ => by
    rw [cellsChars, readChars_cellChars (.inr rfl)]
    simp [readChars]
  | a :: b :: cells, record, _ => by
    have hrest := @readChars_cellsChars (b :: cells) (record ++ [a]) (List.cons_ne_nil b cells)
    rw [List.append_assoc, List.singleton_append] at hrest
    have hcells : cellsChars (a :: b :: cells) =
      cellChars a.toList ++ ',' :: cellsChars (b :: cells) := rfl
    rw [hcells, List.append_assoc, List.cons_append, readChars_cellChars (.inl rfl), ← hrest]
    simp [readChars]

/-- A record is read as it was written. -/
theorem readChars_recordChars (h : cells ≠ []) :
    readChars .start [] [] (recordChars cells ++ rest) =
      (readChars .start [] [] rest).map (cells :: ·) := by
  unfold recordChars
  split
  · simp [readChars]
  · rw [List.append_assoc]
    exact readChars_cellsChars h

/-- A table is read as the records that it was written from. -/
theorem read_table (h : ∀ cells ∈ records, cells ≠ []) : read (table records) = some records := by
  rw [read, table, String.toList_ofList]
  induction records with
  | nil => rfl
  | cons cells records ih =>
    rw [List.flatMap_cons, readChars_recordChars (h cells List.mem_cons_self),
      ih fun cells hcells => h cells (List.mem_cons_of_mem _ hcells)]
    rfl

end InvoiceFields.Csv
