import InvoiceFields.Command.Run
import InvoiceFields.Proofs.Command.Setup
import InvoiceFields.Proofs.Files.Path
import InvoiceFields.Proofs.Report.Csv
import Mathlib.Data.List.Forall2

/-!
# Batches on sessions

A batch on a directory extracts each of its documents from its own file (`perform_extractRows`),
writes its tables and tells how many documents failed (`perform_batch`).
-/

namespace InvoiceFields

open InvoiceFields.Action (perform perform_bind_of_ok perform_bind_of_error perform_bind_eq
  perform_liftM)

variable {s s' : Session} {input path : String} {extensions : List String} {bytes : ByteArray}

/-! ### Documents -/

/-- Whether a path leads to a file with one of some extensions, whatever their case. -/
def FileStore.isDocument (store : FileStore) (extensions : List String) (path : String) : Bool :=
  store.kind? path == some .file &&
    extensions.any (Text.equalIgnoringAsciiCase · (Path.extension path))

namespace Command

theorem perform_isDocument : perform (liftM (isDocument extensions path : StateM Session Bool)) s =
    (.ok (s.store.isDocument extensions path), s) := by
  have hfile : (Host.isFile path : StateM Session Bool) s =
    (s.store.kind? path == some .file, s) := rfl
  rw [perform_liftM, isDocument, Action.session_bind, hfile, FileStore.isDocument]
  cases s.store.kind? path == some .file <;> rfl

/-- The documents of a directory are found in order. -/
theorem perform_documents (hdir : s.store.kind? input = some .directory) :
    perform (documents input extensions) s =
      (((s.store.list input).mapError fun e => .failed e.message).map fun names => Path.sort
        ((names.map (Path.join input)).filter (s.store.isDocument extensions)), s) := by
  have hdirectory : perform (liftM (Host.isDirectory input : StateM Session Bool)) s =
    (.ok (s.store.kind? input == some .directory), s) := rfl
  have hlist : perform (liftM (Host.list input : StateM Session _)) s =
    (.ok (s.store.list input), s) := rfl
  have hcandidates : perform (candidates input) s =
      ((s.store.list input).map (·.map (Path.join input)) |>.mapError (.failed ·.message), s) := by
    rw [candidates, perform_bind_of_ok hdirectory, hdir, if_pos (beq_self_eq_true _),
      perform_bind_of_ok hlist]
    cases s.store.list input <;> rfl
  rw [documents]
  cases hnames : s.store.list input with
  | error e =>
    rw [hnames] at hcandidates
    exact perform_bind_of_error hcandidates
  | ok names =>
    rw [hnames] at hcandidates
    have hfilter : ∀ paths : List String, perform (paths.filterM fun path =>
        liftM (isDocument extensions path : StateM Session Bool)) s =
          (.ok (paths.filter (s.store.isDocument extensions)), s) :=
      Action.perform_filterM fun _ => perform_isDocument
    rw [perform_bind_of_ok hcandidates, perform_bind_of_ok (hfilter _)]
    rfl

end Command

/-! ### Workers -/

namespace WorkerPool

/-- What is documented of workers that may work on some task at all: results are collected in the
order of the tasks, and of one that breaks down it is told that it panicked. -/
structure Documented (pool : WorkerPool (StateM Session)) : Prop where
  /-- Each task leaves the session as it is, so no task depends on when another one is done. -/
  inOrder : ∀ {α : Type} {jobs : Nat} {tasks : List (StateM Session α)} {results : List α}
    {s : Session}, 1 ≤ jobs → List.Forall₂ (fun task result => task s = (result, s)) tasks results →
      pool.buffered jobs tasks s = (results, s)
  panicked : ∀ path cause, "panicked".toList <:+: (pool.breakdownText path cause).toList

theorem sequential_documented : Documented sequential where
  inOrder := by
    intro α jobs tasks results s hjobs hresults
    show (if jobs = 0 then pure [] else tasks.mapM id : StateM Session _) s = _
    rw [if_neg (Nat.one_le_iff_ne_zero.mp hjobs)]
    induction hresults with
    | nil => rfl
    | cons htask _ ih =>
      rw [List.mapM_cons, Action.session_bind, id_eq, htask, Action.session_bind, ih]
      rfl
  panicked _ _ := by
    show "panicked".toList <:+: "task panicked".toList
    exact ⟨"task ".toList, [], by decide⟩

end WorkerPool

/-! ### Records -/

variable {pipeline : Pipeline} {level : LogLevel} {told : String → Breakdown → String}

/-- What a pipeline makes of a file by itself. -/
def Pipeline.onFile (p : Pipeline) (level : LogLevel) (path : String) (bytes : ByteArray) :
    Except Breakdown (Except Failure Outcome) :=
  p.run (.ofText (Text.Utf8.ofBytes bytes)) (some (Path.fileName path)) level

/-- The record of a file: its name, and the values that a pipeline extracts from it, if any. -/
def Pipeline.record (p : Pipeline) (level : LogLevel) (path : String) (bytes : ByteArray) :
    List String :=
  Path.fileName path :: match p.onFile level path bytes with
    | .ok (.ok outcome) => outcome.fields.row
    | .ok (.error (.noTotals found)) => found.row
    | _ => List.replicate 13 ""

/-- The text of the error with which a pipeline fails on a file, if it does. `told` is what is told
of a worker that breaks down. -/
def Pipeline.failure? (p : Pipeline) (level : LogLevel) (told : String → Breakdown → String)
    (path : String) (bytes : ByteArray) : Option String :=
  match p.onFile level path bytes with
  | .ok (.ok _) => none
  | .ok (.error failure) => some failure.message
  | .error cause => some (told path cause)

theorem Pipeline.length_record : (pipeline.record level path bytes).length = 14 := by
  rw [Pipeline.record, List.length_cons]
  split
  · rfl
  · rfl
  · rfl

namespace BatchRow

/-- The row of a file. -/
def ofFile (p : Pipeline) (level : LogLevel) (told : String → Breakdown → String) (path : String)
    (bytes : ByteArray) : BatchRow :=
  ofRun path 0 (told path) (p.onFile level path bytes)

theorem path_ofFile : (ofFile pipeline level told path bytes).path = path := by
  unfold ofFile ofRun
  split <;> rfl

theorem cells_ofFile :
    (ofFile pipeline level told path bytes).cells = pipeline.record level path bytes := by
  rw [ofFile, Pipeline.record]
  rcases pipeline.onFile level path bytes with cause | failure | outcome
  · rfl
  · cases failure <;> rfl
  · rfl

theorem error_ofFile : (ofFile pipeline level told path bytes).error =
    pipeline.failure? level told path bytes := by
  rw [ofFile, Pipeline.failure?]
  rcases pipeline.onFile level path bytes with cause | failure | outcome
  · rfl
  · cases failure <;> rfl
  · rfl

theorem nanoseconds_ofFile : (ofFile pipeline level told path bytes).nanoseconds = 0 := by
  unfold ofFile ofRun
  split <;> rfl

end BatchRow

/-- The row of a document in a store. -/
def FileStore.rowOf (store : FileStore) (pipeline : Pipeline) (level : LogLevel)
    (told : String → Breakdown → String) (path : String) : BatchRow :=
  .ofFile pipeline level told path ((store.content? path).getD default)

theorem Command.extractRow_session (h : s.store.isDocument extensions path) :
    (extractRow pipeline level told path : StateM Session _) s =
      (s.store.rowOf pipeline level told path, s) := by
  obtain ⟨hfile, -⟩ := Bool.and_eq_true_iff.mp h
  obtain ⟨bytes, hbytes⟩ := FileStore.exists_content? (eq_of_beq hfile)
  have hread : (ExceptT.run (Setup.readDocument path) : StateM Session _) s =
      (.ok (.ofText (Text.Utf8.ofBytes bytes)), s) := by
    have hcontent : perform (liftM (Host.read path : StateM Session _)) s = (.ok (.ok bytes), s) :=
      congrArg (fun answer => (Except.ok answer, s)) (FileStore.read_eq_ok.mpr hbytes)
    exact perform_bind_of_ok hcontent
  have hclock : (Host.clock : StateM Session Nat) s = (0, s) := rfl
  rw [extractRow, Action.session_bind, hclock, Action.session_bind, hread, FileStore.rowOf, hbytes]
  rfl

/-- All documents are extracted, each from its own file. At least one job is allowed, so the workers
are bound to do as documented. -/
theorem Command.perform_extractRows {pool : WorkerPool (StateM Session)} (hpool : pool.Documented)
    {jobs : Nat} {paths : List String}
    (hpaths : ∀ path ∈ paths, s.store.isDocument extensions path) :
    perform (liftM (pool.buffered (max jobs 1)
      (paths.map (extractRow pipeline level told : String → StateM Session _)))) s =
        (.ok (paths.map (s.store.rowOf pipeline level told)), s) := by
  have hrows : List.Forall₂ (fun task row => task s = (row, s))
      (paths.map (extractRow pipeline level told : String → StateM Session _))
      (paths.map (s.store.rowOf pipeline level told)) := by
    rw [List.forall₂_map_left_iff, List.forall₂_map_right_iff, List.forall₂_same]
    exact fun path hpath => extractRow_session (hpaths path hpath)
  rw [perform_liftM, hpool.inOrder (le_max_right jobs 1) hrows]

/-! ### Outputs -/

/-- The line that tells how many documents were extracted and how many failed. -/
def BatchRow.countLine (successful failed : Nat) : String :=
  "   " ++ Decimal.countText successful ++ " successful, " ++ Decimal.countText failed ++
    " failed\n"

namespace Command

variable {rows failed : List BatchRow} {output failures : Option String} {nanoseconds : Nat}

/-- A line on the error output tells how many documents failed. -/
theorem perform_summarise : ∃ front back, perform (summarise rows failed nanoseconds) s =
    (.ok (), { s with err := s.err ++ (front ++
      BatchRow.countLine (rows.length - failed.length) failed.length ++ back) }) := by
  have hlist : Action.Notes (if !failed.isEmpty then do
      Action.noteLine ""
      Action.noteLine "Failed files:"
      failed.forM fun r => Action.noteLine ("  - " ++ r.path ++ ": " ++ r.failure)
    else pure ()) := by
    split
    · exact .bind (.noteLine _) (.bind (.noteLine _) (.forM (fun _ => .noteLine _) failed))
    · exact .pure
  obtain ⟨back, hback⟩ := hlist _
  refine ⟨"" ++ "\n" ++ ("✓ Processed " ++ Decimal.countText rows.length ++ " files in " ++
    Duration.text nanoseconds ++ "\n"), back, ?_⟩
  rw [summarise, perform_bind_of_ok (Action.perform_noteLine _),
    perform_bind_of_ok (Action.perform_noteLine _), perform_bind_of_ok (Action.perform_noteLine _),
    hback]
  simp only [BatchRow.countLine, String.append_assoc]
  rfl

/-- A text is written to the file that is named, if one is. -/
structure Filed (file : Option String) (text : String) (s s' : Session) : Prop where
  kept : file = none → s'.store = s.store
  written : ∀ path, file = some path → s.store.write path text = .ok s'.store
  noted : ∃ note, s'.err = s.err ++ note

theorem perform_writeFile_noteLine {text line : String} {next : Action (StateM Session) Unit}
    (h : perform (do Action.writeFile path text; Action.noteLine line; next) s = (.ok (), s')) :
    ∃ mid, perform next mid = (.ok (), s') ∧ mid.out = s.out ∧ Filed (some path) text s mid := by
  have hwrite := Action.perform_writeFile (s := s) path text
  cases hstore : s.store.write path text with
  | error e =>
    rw [hstore] at hwrite
    rw [perform_bind_of_error hwrite] at h
    exact nomatch h
  | ok store =>
    rw [hstore] at hwrite
    rw [perform_bind_of_ok hwrite, perform_bind_of_ok (Action.perform_noteLine _)] at h
    refine ⟨_, h, rfl, nofun, ?_, line ++ "\n", rfl⟩
    rintro _ ⟨⟩
    exact hstore

/-- A text is written to a file, or else to the standard output. -/
theorem perform_deliver {text : String} {line : String → String}
    {next : Action (StateM Session) Unit}
    (h : perform (match output with
      | none => do
        Host.say (m := StateM Session) text
        next
      | some path => do
        Action.writeFile path text
        Action.noteLine (line path)
        next) s = (.ok (), s')) :
    ∃ mid, perform next mid = (.ok (), s') ∧ (output = none → mid.out = s.out ++ text) ∧
      Filed output text s mid := by
  cases output with
  | none =>
    dsimp only at h
    rw [perform_bind_of_ok (perform_liftM _)] at h
    exact ⟨_, h, fun _ => rfl, fun _ => rfl, nofun, "", (String.append_empty).symm⟩
  | some path =>
    obtain ⟨mid, h, -, hfiled⟩ := perform_writeFile_noteLine h
    exact ⟨mid, h, nofun, hfiled⟩

/-- A text is written to a file, or not at all. -/
theorem perform_file {text : String} {line : String → String}
    {next : Action (StateM Session) Unit}
    (h : perform (match failures with
      | none => next
      | some path => do
        Action.writeFile path text
        Action.noteLine (line path)
        next) s = (.ok (), s')) :
    ∃ mid, perform next mid = (.ok (), s') ∧ mid.out = s.out ∧ Filed failures text s mid := by
  cases failures with
  | none => exact ⟨s, h, rfl, fun _ => rfl, nofun, "", (String.append_empty).symm⟩
  | some path => exact perform_writeFile_noteLine h

/-- What the end of a batch adds to the error output. -/
def Counted (successful failed : Nat) (s s' : Session) : Prop :=
  ∃ front back, s'.err = s.err ++ (front ++ BatchRow.countLine successful failed ++ back)

/-- What is written in front of the end of a batch does not matter. -/
theorem Counted.of_err_append {successful failed : Nat} {mid : Session} {text : String}
    (h : Counted successful failed mid s') (hmid : mid.err = s.err ++ text) :
    Counted successful failed s s' := by
  obtain ⟨front, back, herr⟩ := h
  exact ⟨text ++ front, back, by simp only [herr, hmid, String.append_assoc]⟩

theorem perform_counts {start : Nat}
    (h : perform (do
      let now ← (Host.clock : StateM Session Nat)
      summarise rows failed (now - start)) s = (.ok (), s')) :
    s'.store = s.store ∧ s'.out = s.out ∧
      Counted (rows.length - failed.length) failed.length s s' := by
  obtain ⟨front, back, hsummary⟩ := @perform_summarise s rows failed (0 - start)
  rw [Action.perform_clock_bind, hsummary] at h
  obtain ⟨-, rfl⟩ := Prod.mk.inj h
  exact ⟨rfl, rfl, front, back, rfl⟩

/-- What a batch leaves behind: the table, the table of failures, and the counts. -/
structure Reported (rows : List BatchRow) (output failures : Option String) (s s' : Session) :
    Prop where
  said : output = none → s'.out = s.out ++ BatchRow.table rows
  written : ∀ path, output = some path →
    (∀ other, failures = some other → s.store.place? path ≠ s.store.place? other) →
      s'.store.content? path = some (BatchRow.table rows).toUTF8
  failed : ∀ path, failures = some path → s'.store.content? path =
    some (BatchRow.failureTable (rows.filter (·.error.isSome))).toUTF8
  counts : Counted (rows.length - (rows.filter (·.error.isSome)).length)
    (rows.filter (·.error.isSome)).length s s'

/-- The table stays as it is when the table of failures is written to another place. -/
theorem Filed.content? {file other : Option String} {text text' : String} {mid : Session}
    (h : Filed file text s mid) (h' : Filed other text' mid s') (hfile : file = some path)
    (happart : ∀ path', other = some path' → s.store.place? path ≠ s.store.place? path') :
    s'.store.content? path = some text.toUTF8 := by
  have hwrite := h.written path hfile
  have hself := FileStore.content?_write_self hwrite
  cases hother : other with
  | none => rw [h'.kept hother, hself]
  | some path' =>
    have hne : mid.store.place? path ≠ mid.store.place? path' := by
      obtain ⟨_, -, -, hstore⟩ := FileStore.write_eq_ok hwrite
      rw [hstore]
      exact happart path' hother
    rw [FileStore.content?_write_ne (h'.written path' hother) hne, hself]

/-- The end of a batch that succeeds. -/
theorem perform_conclude {start : Nat}
    (h : perform (conclude rows output failures start) s = (.ok (), s')) :
    Reported rows output failures s s' := by
  unfold conclude at h
  obtain ⟨tabled, hrest, hsaid, htable⟩ := perform_deliver h
  obtain ⟨filed, hrest, hout, hfailures⟩ := perform_file hrest
  obtain ⟨hstore, hend, hcounts⟩ := perform_counts hrest
  obtain ⟨_, hnoted⟩ := htable.noted
  obtain ⟨_, hnoted'⟩ := hfailures.noted
  refine ⟨fun hnone => ?_, fun path hpath happart => ?_, fun path hpath => ?_, ?_⟩
  · rw [hend, hout, hsaid hnone]
  · rw [hstore]
    exact htable.content? hfailures hpath happart
  · rw [hstore]
    exact FileStore.content?_write_self (hfailures.written path hpath)
  · exact (hcounts.of_err_append hnoted').of_err_append hnoted

/-- Without files, the end of a batch prints the table. -/
theorem exists_perform_conclude (start : Nat) : ∃ note,
    perform (conclude rows none none start) s = (.ok (), { s with
      out := s.out ++ BatchRow.table rows
      err := s.err ++ note }) := by
  obtain ⟨front, back, hsummary⟩ := @perform_summarise
    { s with out := s.out ++ BatchRow.table rows } rows (rows.filter (·.error.isSome)) (0 - start)
  unfold conclude
  dsimp only
  rw [perform_bind_of_ok (perform_liftM _), Action.perform_clock_bind]
  exact ⟨_, hsummary⟩

section Batch

variable {config : Config} {jobs : Option Nat} {start : Nat} {pool : WorkerPool (StateM Session)}

/-- A batch needs documents and a pipeline. It extracts each document from its own file. -/
theorem perform_batch_eq (hpool : pool.Documented) {paths : List String}
    (hpaths : perform (documents input config.batch.extensions) s = (.ok paths, s))
    (hdocument : ∀ path ∈ paths, s.store.isDocument config.batch.extensions path) :
    let noted : Session := { s with err := s.err ++
      ("ℹ Found " ++ Decimal.countText paths.length ++ " files to process" ++ "\n") }
    perform (batch config input output failures jobs start level pool) s =
      if paths.isEmpty then (.error (.failed ("No matching files found for: " ++ input)), s)
      else match s.store.pipeline config.extraction with
        | .error stop => (.error stop, noted)
        | .ok pipeline => perform (conclude
            (paths.map (s.store.rowOf pipeline level pool.breakdownText)) output failures start)
            noted := by
  intro noted
  unfold batch
  rw [perform_bind_of_ok hpaths]
  split
  case isTrue => rfl
  case isFalse =>
    rw [perform_bind_of_ok (Action.perform_noteLine _)]
    cases hpipeline : s.store.pipeline config.extraction with
    | error stop =>
      exact perform_bind_of_error ((Setup.perform_pipeline _).trans (by rw [hpipeline]))
    | ok pipeline =>
      have hrows : perform (liftM (pool.buffered (max (jobs.getD config.batch.jobs) 1)
          (paths.map (extractRow pipeline level pool.breakdownText)))) noted =
            (.ok (paths.map (s.store.rowOf pipeline level pool.breakdownText)), noted) :=
        perform_extractRows hpool hdocument
      rw [perform_bind_of_ok ((Setup.perform_pipeline _).trans (by rw [hpipeline])),
        perform_bind_of_ok hrows]

/-- What a batch on a directory has done if it succeeds. -/
theorem perform_batch (hpool : pool.Documented) (hdir : s.store.kind? input = some .directory)
    (h : perform (batch config input output failures jobs start level pool) s = (.ok (), s')) :
    ∃ names pipeline paths, s.store.list input = .ok names ∧
      s.store.pipeline config.extraction = .ok pipeline ∧
      paths = Path.sort ((names.map (Path.join input)).filter
        (s.store.isDocument config.batch.extensions)) ∧
      Reported (paths.map (s.store.rowOf pipeline level pool.breakdownText)) output failures s
        s' := by
  obtain ⟨paths, mid, hpaths, -⟩ | ⟨_, _, hstop⟩ := perform_bind_eq h
  case inr => exact nomatch hstop
  obtain ⟨hfound, rfl⟩ := Prod.mk.inj ((perform_documents hdir).symm.trans hpaths)
  obtain ⟨names, hlisted, hsorted⟩ := map_eq_ok.mp hfound
  have hdocument : ∀ path ∈ paths, s.store.isDocument config.batch.extensions path := by
    intro path hpath
    rw [← hsorted, (Path.sort_perm _).mem_iff] at hpath
    exact (List.mem_filter.mp hpath).2
  rw [perform_batch_eq hpool hpaths hdocument] at h
  split at h
  case isTrue => exact nomatch h
  case isFalse =>
    cases hpipeline : s.store.pipeline config.extraction with
    | error stop =>
      rw [hpipeline] at h
      exact nomatch h
    | ok pipeline =>
      rw [hpipeline] at h
      obtain ⟨hsaid, hwritten, hfailed, hcounts⟩ := perform_conclude h
      exact ⟨names, pipeline, paths, mapError_eq_ok.mp hlisted, rfl, hsorted.symm, hsaid, hwritten,
        hfailed, hcounts.of_err_append rfl⟩

end Batch

end Command

/-- A batch starts with its clock at zero, since the clock of a session stands still. -/
theorem CommandLine.perform_run_batch {usual : String} {named : Option String} {jobs : Option Nat}
    {options : ExtractionOptions} {pool : WorkerPool (StateM Session)} :
    perform (run usual ⟨named, .batch input output failures jobs options⟩ level pool) s =
      perform (do
        Command.batch (← setup usual named options) input output failures jobs 0 level pool) s :=
  Action.perform_clock_bind

end InvoiceFields
