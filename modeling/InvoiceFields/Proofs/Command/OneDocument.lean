import InvoiceFields.Proofs.Command.Batch
import InvoiceFields.Proofs.Command.Process
import InvoiceFields.Proofs.Report.Table

/-!
# A batch of one document

The two commands build their tables in different ways: the one for a single document writes it to a
text, drops the blanks at its end and prints the rest as a line, a batch writes it as it is. They
print the same all the same (`CommandLine.process_agrees_with_batch`).
-/

namespace InvoiceFields

open InvoiceFields.Action (perform perform_bind_of_ok perform_liftM)

variable {s : Session} {usual file path dir : String} {named : Option String} {jobs : Option Nat}
  {options : ExtractionOptions} {config : Config} {pipeline : Pipeline} {bytes : ByteArray}
  {level : LogLevel} {pool : WorkerPool (StateM Session)}

/-! ### Files -/

namespace FileStore

variable {store : FileStore} {extensions : List String}

/-- Two paths lead to one place, and the name at their end is the same. -/
structure SameFile (store : FileStore) (path path' : String) : Prop where
  place : store.place? path = store.place? path'
  name : Path.fileName path = Path.fileName path'

/-- A directory whose entries are no documents, except one. -/
structure HoldsOnly (store : FileStore) (extensions : List String) (dir path : String) : Prop where
  directory : store.kind? dir = some .directory
  documents : ∃ names, store.list dir = .ok names ∧
    (names.map (Path.join dir)).filter (store.isDocument extensions) = [path]

theorem HoldsOnly.isDocument (h : store.HoldsOnly extensions dir path) :
    store.isDocument extensions path = true := by
  obtain ⟨names, -, hfilter⟩ := h.documents
  exact (List.mem_filter.mp (hfilter ▸ List.mem_singleton_self path)).2

/-- What is read from a document does not depend on the path that leads to it. -/
theorem SameFile.content? (h : store.SameFile file path)
    (hpath : store.isDocument extensions path = true) (hfile : store.content? file = some bytes) :
    store.content? path = some bytes := by
  obtain ⟨hkind, -⟩ := Bool.and_eq_true_iff.mp hpath
  obtain ⟨bytes', hbytes'⟩ := exists_content? (eq_of_beq hkind)
  rw [hbytes']
  cases hplace : store.place? path with
  | none =>
    rw [content?_of_place?_eq_none hplace] at hbytes'
    exact nomatch hbytes'
  | some place =>
    rw [content?_of_place? hplace] at hbytes'
    rw [content?_of_place? (h.place.trans hplace)] at hfile
    split at hbytes'
    case isTrue => exact nomatch hbytes'
    case isFalse =>
      split at hfile
      case isTrue => exact nomatch hfile
      case isFalse => rw [← hbytes', hfile]

end FileStore

/-! ### The row of a document -/

/-- A document that has a report has the cells of its report in a batch. -/
theorem Pipeline.record_eq {doc : Document} {answer : Except Failure Outcome} {e : Extraction}
    (hdoc : .ofText (Text.Utf8.ofBytes bytes) = doc)
    (hrun : pipeline.run doc (some (Path.fileName path)) level = .ok answer)
    (he : reported? answer = some e) :
    pipeline.record level path bytes = Path.fileName path :: e.row := by
  subst hdoc
  rw [record, onFile, hrun]
  cases answer with
  | ok outcome => cases he; rfl
  | error failure =>
    cases failure with
    | noTotals found => cases he; rfl
    | emptyDocument | noData => cases he

namespace Command

/-- The only document of a directory is found. -/
theorem perform_documents_of_holdsOnly {extensions : List String}
    (honly : s.store.HoldsOnly extensions dir path) :
    perform (documents dir extensions) s = (.ok [path], s) := by
  obtain ⟨names, hnames, hfilter⟩ := honly.documents
  rw [perform_documents honly.directory, hnames]
  show (Except.ok (Path.sort _), s) = _
  rw [hfilter, Path.sort, List.mergeSort_singleton]

/-- A batch on a directory that holds only one document prints a table with one row. -/
theorem exists_perform_batch (start : Nat) (hpool : pool.Documented)
    (honly : s.store.HoldsOnly config.batch.extensions dir path)
    (hpipeline : s.store.pipeline config.extraction = .ok pipeline)
    (hpath : s.store.content? path = some bytes) :
    ∃ note, perform (batch config dir none none jobs start level pool) s = (.ok (), { s with
      out := s.out ++ Csv.table [Report.header, pipeline.record level path bytes]
      err := s.err ++ note }) := by
  have hdocument : ∀ p ∈ [path], s.store.isDocument config.batch.extensions p = true :=
    List.forall_mem_singleton.mpr honly.isDocument
  have htable : BatchRow.table ([path].map (s.store.rowOf pipeline level pool.breakdownText)) =
      Csv.table [Report.header, pipeline.record level path bytes] := by
    rw [BatchRow.table, List.map_singleton, List.map_singleton, FileStore.rowOf, hpath,
      Option.getD_some, BatchRow.cells_ofFile]
  rw [perform_batch_eq hpool (perform_documents_of_holdsOnly honly) hdocument, List.isEmpty_cons,
    if_neg Bool.false_ne_true, hpipeline]
  generalize "ℹ Found " ++ Decimal.countText [path].length ++ " files to process" ++ "\n" = found
  obtain ⟨note, hend⟩ := exists_perform_conclude start
  rw [htable] at hend
  exact ⟨found ++ note, hend.trans (by rw [← String.append_assoc])⟩

end Command

/-! ### Command lines -/

namespace CommandLine

/-- A batch on a directory that holds only one document prints the table of its report. -/
theorem Extracts.perform_batch {doc : Document} {answer : Except Failure Outcome} {report : Report}
    (hpool : pool.Documented)
    (h : Extracts usual named options file none level s pipeline doc answer)
    (hreport : pipeline.Reports doc (Path.fileName file) answer report)
    (hsame : s.store.SameFile file path)
    (honly : ∀ config, perform (setup usual named options) s = (.ok config, s) →
      s.store.HoldsOnly config.batch.extensions dir path) :
    ∃ note, perform (run usual ⟨named, .batch dir none none jobs options⟩ level pool) s =
      (.ok (), { s with
        out := s.out ++ Csv.table [Report.header, report.source :: report.fields.row]
        err := s.err ++ note }) := by
  obtain ⟨config, hsetup, hpipeline⟩ := h.configured
  obtain ⟨bytes, hbytes, hdoc⟩ := h.read
  obtain ⟨hfields, hsource⟩ := hreport.reported?
  have hheld := honly config hsetup
  have hanswer : pipeline.run doc (some (Path.fileName path)) level = .ok answer := by
    rw [← hsame.name]
    exact h.answered
  have hrecord : pipeline.record level path bytes = report.source :: report.fields.row := by
    rw [Pipeline.record_eq hdoc hanswer hfields, hsource, hsame.name]
  obtain ⟨note, hbatch⟩ := Command.exists_perform_batch 0 hpool hheld hpipeline
    (hsame.content? hheld.isDocument hbytes)
  refine ⟨note, ?_⟩
  rw [perform_run_batch, perform_bind_of_ok hsetup, hbatch, hrecord]

/-- **Agreement.** The command for one document prints a table exactly when the extraction succeeds
or only the totals are missing. Then a batch on a directory that holds only that document, under the
same name and the same options, succeeds and prints the same, by whatever workers. -/
theorem process_agrees_with_batch (hpool : pool.Documented) (hsame : s.store.SameFile file path)
    (honly : ∀ config, perform (setup usual named options) s = (.ok config, s) →
      s.store.HoldsOnly config.batch.extensions dir path) :
    let processed := perform (run usual ⟨named, .process file none .csv none options⟩ level) s
    let batched := perform (run usual ⟨named, .batch dir none none jobs options⟩ level pool) s
    (processed.2.out ≠ s.out ↔ ∃ pipeline doc answer fields,
      Extracts usual named options file none level s pipeline doc answer ∧
        Pipeline.reported? answer = some fields) ∧
    (processed.2.out ≠ s.out → batched.1 = .ok () ∧ batched.2.out = processed.2.out) := by
  intro processed batched
  rcases reports_or_stops usual named options file none level s with
    ⟨pipeline, doc, answer, report, hextracts, hreports⟩ | ⟨stop, hstop, hnone⟩
  · have hfields := hreports.reported?.1
    obtain ⟨note, hbatch⟩ := hextracts.perform_batch hpool hreports hsame honly
    have htable : report.write .csv ++ "\n" =
        Csv.table [Report.header, report.source :: report.fields.row] :=
      Report.toTable_append_newline (Pipeline.lastClosed_of_reported hextracts.answered hfields)
    have hout : processed.2.out =
        s.out ++ Csv.table [Report.header, report.source :: report.fields.row] := by
      rw [← htable]
      exact (hextracts.printed hreports).2.out
    have hbatched : batched = (.ok (), { s with
        out := processed.2.out, err := s.err ++ note }) := by rw [hout]; exact hbatch
    refine ⟨iff_of_true ?_ ⟨pipeline, doc, answer, report.fields, hextracts, hfields⟩, fun _ => ?_⟩
    · rw [hout]
      exact fun hnothing => Csv.table_ne_empty (String.append_eq_left_iff.mp hnothing)
    · rw [hbatched]
      exact ⟨rfl, rfl⟩
  · have hout : processed.2.out = s.out := by rw [show processed = _ from hstop none .csv]
    refine ⟨iff_of_false (absurd hout) ?_, absurd hout⟩
    rintro ⟨pipeline, doc, answer, fields, hextracts, hfields⟩
    exact nomatch hfields.symm.trans (hnone pipeline doc answer hextracts)

/-- A document with a date and nothing else has a table too, whatever way its path is written. -/
theorem process_agrees_with_batch_incomplete :
    let files := [(["in", "a.txt"], "Fecha 01/02/2024".toUTF8), (["in", "b.md"], "".toUTF8)]
    let s : Session := ⟨⟨"/home", [["in"]], files⟩, "", ""⟩
    let options : ExtractionOptions := ⟨none, none, none⟩
    let processed := perform (run "facta.json"
      ⟨none, .process "./in/a.txt" none .csv none options⟩) s
    let batched := perform (run "facta.json" ⟨none, .batch "in" none none none options⟩) s
    s.store.SameFile "./in/a.txt" "in/a.txt" ∧
      (∀ config, perform (setup "facta.json" none options) s = (.ok config, s) →
        s.store.HoldsOnly config.batch.extensions "in" "in/a.txt") ∧
      processed.1.isOk = false ∧ processed.2.out ≠ "" ∧ batched.1 = .ok () ∧
      batched.2.out = processed.2.out := by
  intro files s options
  have hsame : s.store.SameFile "./in/a.txt" "in/a.txt" :=
    ⟨by decide +kernel, by decide +kernel⟩
  have hmissing : ¬ (s.store.kind? "facta.json").isSome = true := by decide +kernel
  have hload : perform (Setup.loadConfig "facta.json" none) s = (.ok .standard, s) :=
    Setup.perform_storedConfig.trans (by rw [FileStore.storedConfig, if_neg hmissing])
  have honly : ∀ config, perform (setup "facta.json" none options) s = (.ok config, s) →
      s.store.HoldsOnly config.batch.extensions "in" "in/a.txt" := by
    intro config hconfig
    rw [setup, perform_bind_of_ok hload] at hconfig
    cases hconfig
    have hnames : s.store.list "in" = .ok ["a.txt", "b.md"] :=
      eq_ok_of_toOption (by decide +kernel)
    exact ⟨by decide +kernel, _, hnames, by decide +kernel⟩
  obtain ⟨-, hagree⟩ := @process_agrees_with_batch s "facta.json" "./in/a.txt" "in/a.txt" "in"
    none none options .warn .sequential WorkerPool.sequential_documented hsame honly
  -- the two runs are not named, so that no step evaluates them but the last
  suffices hfails : _ ∧ _ from ⟨hsame, honly, hfails.1, hfails.2, hagree hfails.2⟩
  decide +kernel

end CommandLine

end InvoiceFields
