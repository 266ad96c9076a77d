import InvoiceFields.Proofs.Command.Batch

/-!
# Tables of batches

A batch accounts for every document of its directory: the tables that it writes, read again, have
one record for each document in the order of paths, and each record is what the pipeline gives for
that document by itself (`CommandLine.batch_accounts`). It does so with any workers, any number of
them at a time and anything in the log.
-/

namespace InvoiceFields

open InvoiceFields.Action (perform perform_bind_of_ok perform_bind_eq)

variable {s s' : Session} {input : String} {output failures : Option String} {pipeline : Pipeline}
  {level : LogLevel} {told : String → Breakdown → String} {pool : WorkerPool (StateM Session)}
  {docs : List (String × ByteArray)}

/-! ### Tables read again -/

namespace Command

/-- The rows of documents. -/
def rowsOf (pipeline : Pipeline) (level : LogLevel) (told : String → Breakdown → String)
    (docs : List (String × ByteArray)) : List BatchRow :=
  docs.map fun d => BatchRow.ofFile pipeline level told d.1 d.2

/-- The names of the documents that failed, with their errors and the milliseconds they took. -/
def failureRecords (pipeline : Pipeline) (level : LogLevel) (told : String → Breakdown → String)
    (milliseconds : String → Nat) (docs : List (String × ByteArray)) : List (List String) :=
  docs.filterMap fun d => (pipeline.failure? level told d.1 d.2).map fun message =>
    [Path.fileName d.1, message, Decimal.countText (milliseconds d.1)]

/-- The table of a batch is read as one record for each document. -/
theorem read_table : Csv.read (BatchRow.table (rowsOf pipeline level told docs)) =
    some (Report.header :: docs.map fun d => pipeline.record level d.1 d.2) := by
  have hcells : (rowsOf pipeline level told docs).map BatchRow.cells =
      docs.map fun d => pipeline.record level d.1 d.2 := by
    rw [rowsOf, List.map_map]
    exact List.map_congr_left fun d _ => BatchRow.cells_ofFile
  rw [BatchRow.table, hcells]
  refine Csv.read_table (List.forall_mem_cons.mpr ⟨List.cons_ne_nil _ _, fun record hrecord => ?_⟩)
  obtain ⟨d, -, rfl⟩ := List.mem_map.mp hrecord
  exact List.cons_ne_nil _ _

/-- On a session no time passes. -/
theorem failed_rowsOf : ((rowsOf pipeline level told docs).filter (·.error.isSome)).map (fun r =>
    [r.name, r.failure, Decimal.countText (Duration.milliseconds r.nanoseconds)]) =
      failureRecords pipeline level told (fun _ => 0) docs := by
  induction docs with
  | nil => rfl
  | cons d docs ih =>
    rw [failureRecords] at ih
    rw [rowsOf, List.map_cons, List.filter_cons, failureRecords, List.filterMap_cons,
      BatchRow.error_ofFile, ← ih]
    cases hfailure : pipeline.failure? level told d.1 d.2 with
    | none => rfl
    | some message =>
      have herror : (BatchRow.ofFile pipeline level told d.1 d.2).error = some message :=
        BatchRow.error_ofFile.trans hfailure
      simp [BatchRow.name, BatchRow.failure, BatchRow.path_ofFile, herror,
        BatchRow.nanoseconds_ofFile, rowsOf]
      decide

/-- The table of failures is read as one record for each document that failed. -/
theorem read_failureTable :
    Csv.read (BatchRow.failureTable ((rowsOf pipeline level told docs).filter (·.error.isSome))) =
      some (["filename", "error", "processing_time_ms"] ::
        failureRecords pipeline level told (fun _ => 0) docs) := by
  rw [BatchRow.failureTable, failed_rowsOf]
  refine Csv.read_table (List.forall_mem_cons.mpr ⟨List.cons_ne_nil _ _, fun record hrecord => ?_⟩)
  obtain ⟨d, -, hd⟩ := List.mem_filterMap.mp hrecord
  obtain ⟨message, -, rfl⟩ := Option.map_eq_some_iff.mp hd
  exact List.cons_ne_nil _ _

theorem length_failed_rowsOf : ((rowsOf pipeline level told docs).filter (·.error.isSome)).length =
    (docs.filter fun d => (pipeline.failure? level told d.1 d.2).isSome).length := by
  rw [rowsOf, List.filter_map, List.length_map]
  congr 2
  funext d
  exact congrArg Option.isSome BatchRow.error_ofFile

end Command

/-! ### Accounts -/

/-- How a batch accounts for the documents of a directory, each given by its path and its content.
The documents are the files with the right extensions. `told` is what is told of a worker that
breaks down on a document. -/
structure BatchAccount (extensions : List String) (pipeline : Pipeline) (level : LogLevel)
    (told : String → Breakdown → String) (input : String) (output failures : Option String)
    (docs : List (String × ByteArray)) (s s' : Session) : Prop where
  /-- No entry of the directory is lost, and none counts twice. -/
  listed : ∃ names, s.store.list input = .ok names ∧ (docs.map (·.1)).Perm
    ((names.map (Path.join input)).filter (s.store.isDocument extensions))
  contents : ∀ d ∈ docs, s.store.content? d.1 = some d.2
  /-- Whether a file is among the documents, and with which content, depends on that file alone. -/
  alone : ∀ names, s.store.list input = .ok names → ∀ path bytes, (path, bytes) ∈ docs ↔
    path ∈ names.map (Path.join input) ∧ s.store.isDocument extensions path ∧
      s.store.content? path = some bytes
  ordered : docs.Pairwise fun a b => ¬ Path.before (Path.components b.1) (Path.components a.1)
  /-- The record of a document starts with the name of its file. -/
  named : ∀ d ∈ docs, ∀ name, Path.IsName name → d.1 = Path.join input name →
    (pipeline.record level d.1 d.2).head? = some name
  cells : ∀ d ∈ docs, (pipeline.record level d.1 d.2).length = 14
  /-- The table on the standard output has one record for each document. -/
  said : output = none → ∃ text, s'.out = s.out ++ text ∧
    Csv.read text = some (Report.header :: docs.map fun d => pipeline.record level d.1 d.2)
  /-- So has the table in a file, which the other table does not overwrite. -/
  written : ∀ path, output = some path →
    (∀ other, failures = some other → s.store.place? path ≠ s.store.place? other) →
      ∃ text, s'.store.text path = .ok text ∧
        Csv.read text = some (Report.header :: docs.map fun d => pipeline.record level d.1 d.2)
  /-- The other table has one record for each document that failed. -/
  failed : ∀ path, failures = some path → ∃ text milliseconds, s'.store.text path = .ok text ∧
    Csv.read text = some (["filename", "error", "processing_time_ms"] ::
      Command.failureRecords pipeline level told milliseconds docs)
  /-- A document on which the extraction breaks down has failed, and its error says so. -/
  panicked : ∀ d ∈ docs, ∀ cause, pipeline.onFile level d.1 d.2 = .error cause →
    ∃ message, pipeline.failure? level told d.1 d.2 = some message ∧
      "panicked".toList <:+: message.toList
  counts : ∃ successful failed, Command.Counted successful failed s s' ∧
    successful + failed = docs.length ∧
      failed = (docs.filter fun d => (pipeline.failure? level told d.1 d.2).isSome).length

theorem Command.batchAccount {config : Config} {jobs : Option Nat} {start : Nat}
    (hpool : pool.Documented) (hdir : s.store.kind? input = some .directory)
    (h : perform (batch config input output failures jobs start level pool) s = (.ok (), s')) :
    ∃ pipeline docs, s.store.pipeline config.extraction = .ok pipeline ∧
      BatchAccount config.batch.extensions pipeline level pool.breakdownText input output failures
        docs s s' := by
  obtain ⟨names, pipeline, paths, hnames, hpipeline, hpaths, hreported⟩ :=
    perform_batch hpool hdir h
  let docs := paths.map fun path => (path, (s.store.content? path).getD default)
  have hdocs : docs.map (·.1) = paths := by
    rw [List.map_map]
    exact List.map_id paths
  have hrows : paths.map (s.store.rowOf pipeline level pool.breakdownText) =
      rowsOf pipeline level pool.breakdownText docs := by
    rw [rowsOf, List.map_map]
    rfl
  obtain ⟨hsaid, hwritten, hfailed, hcounts⟩ := hrows ▸ hreported
  have hinput : input ≠ "" := by
    rintro rfl
    exact nomatch hdir
  have hlisted : (docs.map (·.1)).Perm
      ((names.map (Path.join input)).filter (s.store.isDocument config.batch.extensions)) := by
    rw [hdocs, hpaths]
    exact Path.sort_perm _
  have hdocument : ∀ d ∈ docs, d.1 ∈ names.map (Path.join input) ∧
      s.store.isDocument config.batch.extensions d.1 := fun d hd =>
    List.mem_filter.mp (hlisted.mem_iff.mp (List.mem_map_of_mem hd))
  have hcontents : ∀ d ∈ docs, s.store.content? d.1 = some d.2 := by
    intro d hd
    -- a document is a file, so the default content above is never used
    obtain ⟨hfile, -⟩ := Bool.and_eq_true_iff.mp (hdocument d hd).2
    obtain ⟨bytes, hbytes⟩ := FileStore.exists_content? (eq_of_beq hfile)
    obtain ⟨path, -, rfl⟩ := List.mem_map.mp hd
    simp only [hbytes, Option.getD_some]
  refine ⟨pipeline, docs, hpipeline, {
    listed := ⟨names, hnames, hlisted⟩
    contents := hcontents
    alone := ?_
    ordered := ?_
    named := fun d _ name hname hd => congrArg some (hd ▸ Path.fileName_join hname hinput)
    cells := fun _ _ => Pipeline.length_record
    said := fun hnone => ⟨_, hsaid hnone, read_table⟩
    written := fun path hpath happart =>
      ⟨_, FileStore.text_of_content? (hwritten path hpath happart), read_table⟩
    failed := fun path hpath =>
      ⟨_, _, FileStore.text_of_content? (hfailed path hpath), read_failureTable⟩
    panicked := fun d _ cause hcause => ⟨pool.breakdownText d.1 cause,
      by rw [Pipeline.failure?, hcause], hpool.panicked d.1 cause⟩
    counts := ⟨_, _, hcounts, ?_, length_failed_rowsOf⟩ }⟩
  · intro names' hnames' path bytes
    obtain rfl := Except.ok.inj (hnames.symm.trans hnames')
    constructor
    · intro hd
      exact ⟨(hdocument _ hd).1, (hdocument _ hd).2, hcontents _ hd⟩
    · rintro ⟨hpath, hfile, hbytes⟩
      obtain ⟨d, hd, rfl⟩ := List.mem_map.mp
        (hlisted.mem_iff.mpr (List.mem_filter.mpr ⟨hpath, hfile⟩))
      obtain rfl := Option.some.inj ((hcontents d hd).symm.trans hbytes)
      exact hd
  · refine List.pairwise_map.mpr ?_
    rw [hpaths]
    exact Path.pairwise_sort _
  · rw [Nat.sub_add_cancel (List.length_filter_le _ _), rowsOf, List.length_map]

namespace CommandLine

/-- A batch on a directory accounts for its documents, however many of them are worked on at a time,
whatever is logged, and by whatever workers that do as documented. -/
theorem batch_accounts {usual : String} {named : Option String} {jobs : Option Nat}
    {options : ExtractionOptions} (hpool : pool.Documented)
    (hdir : s.store.kind? input = some .directory)
    (hrun : perform (run usual ⟨named, .batch input output failures jobs options⟩ level pool) s =
      (.ok (), s')) :
    ∃ config pipeline docs, perform (setup usual named options) s = (.ok config, s) ∧
      s.store.pipeline config.extraction = .ok pipeline ∧
      BatchAccount config.batch.extensions pipeline level pool.breakdownText input output failures
        docs s s' := by
  have hsetup : (perform (setup usual named options) s).2 = s :=
    Action.perform_bind_snd (Setup.perform_loadConfig_snd usual named) fun _ => rfl
  rw [perform_run_batch] at hrun
  obtain ⟨config, mid, hconfig, hrest⟩ | ⟨_, _, hstop⟩ := perform_bind_eq hrun
  case inr => exact nomatch hstop
  obtain rfl : mid = s := by rw [← hsetup, hconfig]
  obtain ⟨pipeline, docs, hpipeline, haccount⟩ := Command.batchAccount hpool hdir hrest
  exact ⟨config, pipeline, docs, hconfig, hpipeline, haccount⟩

/-- A batch of two files, one of them empty, accounts for both, even if it is asked to work on none
at a time. -/
theorem batch_accounts_total :
    let files := [(["in", "b.TXT"], "Total 12,10".toUTF8), (["in", "a.pdf"], "".toUTF8)]
    let s : Session := ⟨⟨"/home", [["in"]], files⟩, "", ""⟩
    let line : CommandLine :=
      ⟨none, .batch "in" none (some "failed.csv") (some 0) ⟨none, none, none⟩⟩
    let pool : WorkerPool (StateM Session) := .sequential
    let ended := perform (line.run "facta.json" .info pool) s
    ended.1.isOk ∧
      ∃ config pipeline docs, perform (setup "facta.json" none ⟨none, none, none⟩) s =
        (.ok config, s) ∧ s.store.pipeline config.extraction = .ok pipeline ∧
        BatchAccount config.batch.extensions pipeline .info pool.breakdownText "in" none
          (some "failed.csv") docs s ended.2 := by
  intro files s line pool ended
  have hdir : s.store.kind? "in" = some .directory := by decide +kernel
  have hok : ended.1.isOk := by decide +kernel
  refine ⟨hok, ?_⟩
  rcases hrun : ended with ⟨_ | _, s'⟩
  · rw [hrun] at hok
    exact nomatch hok
  · exact batch_accounts WorkerPool.sequential_documented hdir hrun

end CommandLine

end InvoiceFields
