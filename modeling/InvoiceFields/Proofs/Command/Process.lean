import InvoiceFields.Command.Run
import InvoiceFields.Proofs.Command.Setup
import InvoiceFields.Proofs.Pipeline.Provenance

/-!
# Extracting one document on a session

Everything that can stop the command for one document, except missing totals, comes before its
report is written (`Command.perform_process`). So the report is written whole, to a file or to the
standard output, or the session stays as it was (`CommandLine.process_all_or_nothing`).
-/

namespace InvoiceFields

open InvoiceFields.Action (perform perform_bind_of_ok perform_bind_of_error perform_liftM)

variable {s : Session} {store : FileStore} {input path text name : String} {doc : Document}
  {format : ReportFormat} {options : ExtractionOptions} {named source output : Option String}
  {level : LogLevel}

/-! ### Documents -/

/-- A path to a file with a content leads somewhere. -/
theorem FileStore.isSome_kind?_of_content? {bytes : ByteArray}
    (h : store.content? path = some bytes) : (store.kind? path).isSome = true := by
  cases hplace : store.place? path with
  | none =>
    rw [content?_of_place?_eq_none hplace] at h
    exact nomatch h
  | some place =>
    rw [content?_of_place? hplace] at h
    split at h
    case isTrue => exact nomatch h
    case isFalse hfile =>
      rw [not_or] at hfile
      rw [kind?, hplace, Option.bind_some]
      have hkind : store.kindAt? place ≠ none := fun hnone => by
        rw [lookup_eq_none_of_kindAt? hnone] at h
        exact nomatch h
      split
      case h_1 => rw [if_neg hfile.2]; rfl
      case h_2 => exact Option.isSome_iff_ne_none.mpr hkind

/-- The document in a file of a store. -/
def FileStore.document (store : FileStore) (path : String) : Except Stop Document :=
  ((store.read path).mapError fun e => .failed e.message).map fun bytes =>
    .ofText (Text.Utf8.ofBytes bytes)

theorem FileStore.document_eq_ok : store.document path = .ok doc ↔
    ∃ bytes, store.content? path = some bytes ∧ .ofText (Text.Utf8.ofBytes bytes) = doc := by
  simp only [document, map_eq_ok, mapError_eq_ok, read_eq_ok]

theorem Setup.perform_readDocument :
    perform (readDocument path) s = (s.store.document path, s) := by
  have hread : perform (liftM (Host.read path : StateM Session _)) s =
    (.ok (s.store.read path), s) := rfl
  rw [readDocument, perform_bind_of_ok hread, FileStore.document]
  cases s.store.read path with
  | error e => exact perform_bind_of_error (Action.perform_expect_error _ e)
  | ok bytes => exact perform_bind_of_ok (Action.perform_expect_ok _ bytes)

/-! ### Reports -/

namespace Pipeline

variable {p : Pipeline} {report : Report} {answer : Except Failure Outcome}

/-- The reports on answers. A result is reported with the profile that it was extracted by, what was
found without base and total with the profile that is selected for the document. -/
inductive Reports (p : Pipeline) (doc : Document) (source : String) :
    Except Failure Outcome → Report → Prop
  | complete (outcome : Outcome) : Reports p doc source (.ok outcome)
      ⟨source, outcome.profile.getD "generic", true, outcome.fields, outcome.fallback⟩
  | incomplete {found : Extraction} {profile : Option Profile}
      (selected : p.registry.identify doc (some source) p.settings = .ok profile) :
      Reports p doc source (.error (.noTotals found))
        ⟨source, (profile.map (·.name)).getD "generic", false, found, []⟩

/-- The failure that an answer is. -/
def failureOf : Except Failure Outcome → Option Failure
  | .ok _ => none
  | .error failure => some failure

theorem report_eq_ok {failure : Option Failure} :
    p.report doc name level = .ok (.ok (report, failure)) ↔
      ∃ answer, p.run doc (some name) level = .ok answer ∧ p.Reports doc name answer report ∧
        failureOf answer = failure := by
  rw [Pipeline.report, bind_eq_ok]
  refine exists_congr fun answer => and_congr_right fun _ => ?_
  rcases answer with failure' | outcome
  · cases failure' with
    | noTotals found =>
      dsimp only
      rw [bind_eq_ok]
      constructor
      · rintro ⟨profile, hselected, h⟩
        cases pure_eq_ok.mp h
        exact ⟨.incomplete hselected, rfl⟩
      · rintro ⟨hreports, rfl⟩
        cases hreports with
        | incomplete hselected => exact ⟨_, hselected, rfl⟩
    | emptyDocument | noData =>
      refine iff_of_false (fun h => nomatch pure_eq_ok.mp h) ?_
      rintro ⟨hreports, -⟩
      exact nomatch hreports
  · constructor
    · intro h
      cases pure_eq_ok.mp h
      exact ⟨.complete outcome, rfl⟩
    · rintro ⟨hreports, rfl⟩
      cases hreports
      rfl

/-- A document that is extracted without breaking down has a profile or none. -/
theorem exists_identify_of_run {source : Option String} (h : p.run doc source level = .ok answer)
    (hdoc : doc.isBlank = false) :
    ∃ profile, p.registry.identify doc source p.settings = .ok profile := by
  rw [Pipeline.run, if_neg (Bool.eq_false_iff.mp hdoc), map_eq_ok] at h
  obtain ⟨outcome, hextract, -⟩ := h
  obtain ⟨profile, hselected, -⟩ := bind_eq_ok.mp hextract
  exact ⟨profile, hselected⟩

/-- A report goes with the profile that is selected for its document. -/
theorem Reports.exists_identify (h : p.Reports doc name answer report)
    (hrun : p.run doc (some name) level = .ok answer) :
    ∃ profile, p.registry.identify doc (some name) p.settings = .ok profile ∧
      report.extractor = (profile.map (·.name)).getD "generic" := by
  cases h with
  | incomplete hselected => exact ⟨_, hselected, rfl⟩
  | complete outcome =>
    obtain ⟨outcome', hextracted, hconcluded, -⟩ := exists_extracted_of_reported hrun rfl
    obtain rfl : outcome = outcome' := by cases hconcluded; rfl
    cases hextracted with
    | byProfile selected => exact ⟨_, selected, rfl⟩
    | byHeuristics unselected => exact ⟨_, unselected, rfl⟩

/-- Nothing is reported on a document that is empty or yields no field. -/
theorem reported?_eq_none : reported? answer = none ↔
    answer = .error .emptyDocument ∨ answer = .error .noData := by
  rcases answer with failure | outcome
  · cases failure <;> simp [reported?]
  · simp [reported?]

/-- A report has the fields that its answer reports. -/
theorem Reports.reported? (h : p.Reports doc name answer report) :
    Pipeline.reported? answer = some report.fields ∧ report.source = name := by
  cases h <;> exact ⟨rfl, rfl⟩

/-- An answer that reports fields has a report. -/
theorem exists_reports {fields : Extraction} (hrun : p.run doc (some name) level = .ok answer)
    (h : Pipeline.reported? answer = some fields) : ∃ report, p.Reports doc name answer report := by
  rcases answer with failure | outcome
  · cases failure with
    | noTotals found =>
      rcases run_eq_ok.mp (run_eq_ok_of_level hrun) with ⟨-, hempty⟩ | ⟨hdoc, -⟩
      · exact nomatch hempty
      · obtain ⟨profile, hselected⟩ := exists_identify_of_run hrun hdoc
        exact ⟨_, .incomplete hselected⟩
    | emptyDocument | noData => exact nomatch h
  · exact ⟨_, .complete outcome⟩

end Pipeline

/-! ### The command -/

/-- The report on a document, or what stops the command without one. -/
def Pipeline.reportOrStop (p : Pipeline) (doc : Document) (name : String) (level : LogLevel) :
    Except Stop (Report × Option Failure) :=
  match p.report doc name level with
  | .error cause => .error (.brokeDown cause)
  | .ok (.error failure) => .error (.failed (name ++ ": " ++ failure.message))
  | .ok (.ok reported) => .ok reported

theorem Pipeline.reportOrStop_eq_ok {p : Pipeline} {reported : Report × Option Failure} :
    p.reportOrStop doc name level = .ok reported ↔
      p.report doc name level = .ok (.ok reported) := by
  rw [reportOrStop]
  rcases p.report doc name level with cause | failure | reported' <;> simp

/-- The report on a document in a store, with the failure that it is nevertheless, or what stops
the command before there is one. -/
def FileStore.reported (store : FileStore) (config : Config) (input name : String)
    (level : LogLevel) : Except Stop (Report × Option Failure) :=
  if (store.kind? input).isSome then do
    let pipeline ← store.pipeline config.extraction
    let doc ← store.document input
    pipeline.reportOrStop doc name level
  else .error (.failed ("Input file not found: " ++ input))

theorem FileStore.reported_eq_ok {config : Config} {reported : Report × Option Failure} :
    store.reported config input name level = .ok reported ↔
      ∃ pipeline, store.pipeline config.extraction = .ok pipeline ∧
        ∃ doc, store.document input = .ok doc ∧
          pipeline.report doc name level = .ok (.ok reported) := by
  rw [FileStore.reported]
  split
  case isTrue => simp only [bind_eq_ok, Pipeline.reportOrStop_eq_ok]
  case isFalse hmissing =>
    refine iff_of_false nofun ?_
    rintro ⟨pipeline, -, doc, hdoc, -⟩
    obtain ⟨bytes, hbytes, -⟩ := document_eq_ok.mp hdoc
    exact hmissing (isSome_kind?_of_content? hbytes)

namespace Command

/-- Writes a report, and fails if it is one on a failure. -/
def deliver (output : Option String) (text name : String) (failure : Option Failure) :
    Action (StateM Session) Unit := do
  writeOutput output text
  match failure with
  | none => return
  | some failure =>
    Action.noteLine ("✗ " ++ name ++ ": " ++ failure.message)
    Action.fail failure.message

/-- The command stops on the session as it is, or it has a report and writes it. -/
theorem perform_process {config : Config} :
    perform (process config input output format source level) s =
      match s.store.reported config input (source.getD (Path.fileName input)) level with
      | .error stop => (.error stop, s)
      | .ok (report, failure) => perform (deliver output (report.write format)
          (source.getD (Path.fileName input)) failure) s := by
  have hkind : perform (liftM (Host.exists? input : StateM Session Bool)) s =
    (.ok (s.store.kind? input).isSome, s) := rfl
  have hpipeline := Setup.perform_pipeline (s := s) config.extraction
  have hdocument : perform (Setup.readDocument input) s = (s.store.document input, s) :=
    Setup.perform_readDocument
  rw [process, perform_bind_of_ok hkind, FileStore.reported]
  cases (s.store.kind? input).isSome with
  | false => rfl
  | true =>
    rw [if_pos rfl]
    cases hread : s.store.pipeline config.extraction with
    | error stop =>
      rw [hread] at hpipeline
      exact perform_bind_of_error hpipeline
    | ok pipeline =>
      rw [hread] at hpipeline
      refine (perform_bind_of_ok hpipeline).trans ?_
      cases hdoc : s.store.document input with
      | error stop =>
        rw [hdoc] at hdocument
        exact perform_bind_of_error hdocument
      | ok doc =>
        rw [hdoc] at hdocument
        refine (perform_bind_of_ok hdocument).trans ?_
        show _ = (match pipeline.reportOrStop doc (source.getD (Path.fileName input)) level with
          | .error stop => (.error stop, s)
          | .ok (report, failure) => perform (deliver output (report.write format)
              (source.getD (Path.fileName input)) failure) s : Except Stop Unit × Session)
        rw [Pipeline.reportOrStop]
        rcases pipeline.report doc (source.getD (Path.fileName input)) level with
          cause | failure | ⟨report, failure⟩ <;> rfl

/-- The answer of a command whose report is delivered. -/
def verdict : Option Failure → Except Stop Unit
  | none => .ok ()
  | some failure => .error (.failed failure.message)

theorem perform_deliver_none (s : Session) (text name : String) (failure : Option Failure) :
    ∃ note, perform (deliver none text name failure) s =
      (verdict failure, { s with out := s.out ++ (text ++ "\n"), err := s.err ++ note }) := by
  cases failure with
  | none => exact ⟨"", by rw [String.append_empty]; rfl⟩
  | some failure => exact ⟨_, rfl⟩

theorem perform_deliver_some {store : FileStore} (h : s.store.write path text = .ok store)
    (name : String) (failure : Option Failure) :
    ∃ note, perform (deliver (some path) text name failure) s =
      (verdict failure, { s with store := store, err := s.err ++ note }) := by
  have hwrite := Action.perform_writeFile (s := s) path text
  rw [h] at hwrite
  have hnoted : perform (writeOutput (some path) text) s = (.ok (), { s with
      store := store, err := s.err ++ ("✓ Output written to " ++ path ++ "\n") }) :=
    perform_bind_of_ok hwrite
  unfold deliver
  rw [perform_bind_of_ok hnoted]
  cases failure with
  | none => exact ⟨_, rfl⟩
  | some failure =>
    rw [perform_bind_of_ok (Action.perform_noteLine _)]
    refine ⟨("✓ Output written to " ++ path ++ "\n") ++
      ("✗ " ++ name ++ ": " ++ failure.message ++ "\n"), ?_⟩
    simp only [String.append_assoc]
    rfl

/-! ### Selection -/

/-- What is said of the profile that is selected for a document: its name and why, or that there is
none. -/
inductive Identifies (p : Pipeline) (doc : Document) (source : String) : String → String → Prop
  | bySource {profile : Profile} (selected : p.registry.bySource? source = some profile) :
      Identifies p doc source profile.name
        (profile.name ++ " (source keyword in " ++ Text.quoted source ++ ")")
  | byContent {profile : Profile} (unnamed : p.registry.bySource? source = none)
      (selected : p.registry.byContent? doc p.settings = .ok (some profile)) :
      Identifies p doc source profile.name (profile.name ++ " (issuer tax id in content)")
  | generic (unnamed : p.registry.bySource? source = none)
      (unselected : p.registry.byContent? doc p.settings = .ok none) :
      Identifies p doc source "generic" "generic (no profile matched)"

/-- Where a profile or none is selected, its name is said. -/
theorem perform_identify {config : Config} {pipeline : Pipeline} {profile : Option Profile}
    (hpipeline : s.store.pipeline config.extraction = .ok pipeline)
    (hdoc : s.store.document input = .ok doc)
    (hselected : pipeline.registry.identify doc (some (source.getD (Path.fileName input)))
      pipeline.settings = .ok profile) :
    ∃ line, perform (identify config input source) s =
        (.ok (), { s with out := s.out ++ (line ++ "\n") }) ∧
      Identifies pipeline doc (source.getD (Path.fileName input))
        ((profile.map (·.name)).getD "generic") line := by
  have hread : perform (Setup.pipeline config.extraction) s = (.ok pipeline, s) :=
    (Setup.perform_pipeline _).trans (by rw [hpipeline])
  have hdocument : perform (Setup.readDocument input) s = (.ok doc, s) :=
    Setup.perform_readDocument.trans (by rw [hdoc])
  rw [Registry.identify, Option.bind_some] at hselected
  unfold identify
  rw [perform_bind_of_ok hread]
  dsimp only
  rw [perform_bind_of_ok hdocument]
  cases hsource : pipeline.registry.bySource? (source.getD (Path.fileName input)) with
  | some found =>
    rw [hsource] at hselected
    obtain rfl : some found = profile := Except.ok.inj hselected
    exact ⟨_, rfl, .bySource hsource⟩
  | none =>
    rw [hsource] at hselected
    dsimp only at hselected ⊢
    rw [hselected]
    cases profile with
    | some found => exact ⟨_, rfl, .byContent hsource hselected⟩
    | none => exact ⟨_, rfl, .generic hsource hselected⟩

end Command

/-! ### Command lines -/

namespace CommandLine

variable {usual : String}

/-- Setting up leaves the session as it is. -/
theorem exists_perform_setup (usual : String) (named : Option String) (options : ExtractionOptions)
    (s : Session) : ∃ answer, perform (setup usual named options) s = (answer, s) := by
  have hsession : (perform (setup usual named options) s).2 = s :=
    Action.perform_bind_snd (Setup.perform_loadConfig_snd usual named) fun _ => rfl
  exact ⟨_, Prod.ext rfl hsession⟩

theorem perform_run_process : perform (run usual ⟨named, .process input output format source
    options⟩ level) s = perform (do
      Command.process (← setup usual named options) input output format source level) s :=
  Action.perform_clock_bind

theorem perform_run_identify :
    perform (run usual ⟨named, .identify input source options⟩ level) s =
      perform (do Command.identify (← setup usual named options) input source) s :=
  Action.perform_clock_bind

/-- What the extraction of a command line comes to: the configuration and its rules can be read, so
can the document, and the pipeline answers. -/
structure Extracts (usual : String) (named : Option String) (options : ExtractionOptions)
    (input : String) (source : Option String) (level : LogLevel) (s : Session)
    (pipeline : Pipeline) (doc : Document) (answer : Except Failure Outcome) : Prop where
  configured : ∃ config, perform (setup usual named options) s = (.ok config, s) ∧
    s.store.pipeline config.extraction = .ok pipeline
  read : ∃ bytes, s.store.content? input = some bytes ∧ .ofText (Text.Utf8.ofBytes bytes) = doc
  answered : pipeline.run doc (some (source.getD (Path.fileName input))) level = .ok answer

/-- A line is added to the standard output, and no file changes. -/
structure Says (line : String) (s s' : Session) : Prop where
  out : s'.out = s.out ++ (line ++ "\n")
  store : s'.store = s.store

/-- A text becomes the content of a file, no other file changes, and nothing is said. -/
structure Files (path text : String) (s s' : Session) : Prop where
  content : s'.store.content? path = some text.toUTF8
  others : ∀ other, s.store.place? other ≠ s.store.place? path →
    s'.store.content? other = s.store.content? other
  out : s'.out = s.out

/-- An extraction that has a report is the one that the command reports. -/
theorem Extracts.reported {config : Config} {pipeline : Pipeline} {answer : Except Failure Outcome}
    {report : Report} (h : Extracts usual named options input source level s pipeline doc answer)
    (hsetup : perform (setup usual named options) s = (.ok config, s))
    (hreport : pipeline.Reports doc (source.getD (Path.fileName input)) answer report) :
    s.store.reported config input (source.getD (Path.fileName input)) level =
      .ok (report, Pipeline.failureOf answer) := by
  obtain ⟨⟨config', hsetup', hpipeline⟩, hread, hanswer⟩ := h
  obtain rfl : config' = config := by
    rw [hsetup] at hsetup'
    exact (Except.ok.inj (Prod.mk.inj hsetup').1).symm
  exact FileStore.reported_eq_ok.mpr ⟨pipeline, hpipeline, doc, FileStore.document_eq_ok.mpr hread,
    Pipeline.report_eq_ok.mpr ⟨answer, hanswer, hreport, rfl⟩⟩

/-- A command line for one document has a report, or it stops on the session as it is, whatever the
output is to be; then no fields have been extracted. -/
theorem reports_or_stops (usual : String) (named : Option String) (options : ExtractionOptions)
    (input : String) (source : Option String) (level : LogLevel) (s : Session) :
    (∃ pipeline doc answer report,
      Extracts usual named options input source level s pipeline doc answer ∧
        pipeline.Reports doc (source.getD (Path.fileName input)) answer report) ∨
    ∃ stop, (∀ output format, perform (run usual
      ⟨named, .process input output format source options⟩ level) s = (.error stop, s)) ∧
      ∀ pipeline doc answer, Extracts usual named options input source level s pipeline doc answer →
        Pipeline.reported? answer = none := by
  obtain ⟨answer, hsetup⟩ := exists_perform_setup usual named options s
  cases answer with
  | error stop =>
    refine .inr ⟨stop, fun output format =>
      perform_run_process.trans (perform_bind_of_error hsetup), ?_⟩
    intro pipeline doc answer hextracts
    obtain ⟨config, hconfig, -⟩ := hextracts.configured
    rw [hsetup] at hconfig
    exact nomatch hconfig
  | ok config =>
    cases hreported : s.store.reported config input (source.getD (Path.fileName input)) level with
    | ok reported =>
      obtain ⟨pipeline, hpipeline, doc, hdoc, hreport⟩ := FileStore.reported_eq_ok.mp hreported
      obtain ⟨answer, hanswer, hreports, -⟩ := Pipeline.report_eq_ok.mp hreport
      exact .inl ⟨pipeline, doc, answer, reported.1,
        ⟨⟨config, hsetup, hpipeline⟩, FileStore.document_eq_ok.mp hdoc, hanswer⟩, hreports⟩
    | error stop =>
      refine .inr ⟨stop, fun output format => ?_, fun pipeline doc answer hextracts => ?_⟩
      · rw [perform_run_process, perform_bind_of_ok hsetup, Command.perform_process, hreported]
      · refine Option.eq_none_iff_forall_ne_some.mpr fun fields hfields => ?_
        obtain ⟨report, hreport⟩ := Pipeline.exists_reports hextracts.answered hfields
        rw [hextracts.reported hsetup hreport] at hreported
        exact nomatch hreported

section Reported

variable {pipeline : Pipeline} {answer : Except Failure Outcome} {report : Report}

/-- The command delivers the report that there is. -/
theorem Extracts.perform_run
    (h : Extracts usual named options input source level s pipeline doc answer)
    (hreport : pipeline.Reports doc (source.getD (Path.fileName input)) answer report) :
    perform (run usual ⟨named, .process input output format source options⟩ level) s =
      perform (Command.deliver output (report.write format)
        (source.getD (Path.fileName input)) (Pipeline.failureOf answer)) s := by
  obtain ⟨config, hsetup, -⟩ := h.configured
  rw [perform_run_process, perform_bind_of_ok hsetup, Command.perform_process,
    h.reported hsetup hreport]

/-- A report that goes to no file is printed. -/
theorem Extracts.printed (h : Extracts usual named options input source level s pipeline doc answer)
    (hreport : pipeline.Reports doc (source.getD (Path.fileName input)) answer report) :
    let shown := perform (run usual ⟨named, .process input none format source options⟩ level) s
    shown.1 = Command.verdict (Pipeline.failureOf answer) ∧
      Says (report.write format) s shown.2 := by
  obtain ⟨note, hsaid⟩ := Command.perform_deliver_none s (report.write format)
    (source.getD (Path.fileName input)) (Pipeline.failureOf answer)
  dsimp only
  rw [h.perform_run hreport, hsaid]
  exact ⟨rfl, rfl, rfl⟩

/-- A report that goes to a file is left there. -/
theorem Extracts.filed {store : FileStore}
    (h : Extracts usual named options input source level s pipeline doc answer)
    (hreport : pipeline.Reports doc (source.getD (Path.fileName input)) answer report)
    (hwrite : s.store.write path (report.write format) = .ok store) :
    let filed :=
      perform (run usual ⟨named, .process input (some path) format source options⟩ level) s
    filed.1 = Command.verdict (Pipeline.failureOf answer) ∧
      Files path (report.write format) s filed.2 := by
  obtain ⟨note, hwritten⟩ := Command.perform_deliver_some hwrite
    (source.getD (Path.fileName input)) (Pipeline.failureOf answer)
  dsimp only
  rw [h.perform_run hreport, hwritten]
  exact ⟨rfl, FileStore.content?_write_self hwrite,
    fun other hother => FileStore.content?_write_ne hwrite hother, rfl⟩

/-- The extractor of a report is the one that is told for its document. -/
theorem Extracts.identified
    (h : Extracts usual named options input source level s pipeline doc answer)
    (hreport : pipeline.Reports doc (source.getD (Path.fileName input)) answer report) :
    let identified := perform (run usual ⟨named, .identify input source options⟩ level) s
    ∃ line, identified.1 = .ok () ∧ Says line s identified.2 ∧
      Command.Identifies pipeline doc (source.getD (Path.fileName input)) report.extractor
        line := by
  obtain ⟨config, hsetup, hpipeline⟩ := h.configured
  obtain ⟨profile, hselected, hextractor⟩ := hreport.exists_identify h.answered
  obtain ⟨line, hline, hidentifies⟩ := Command.perform_identify hpipeline
    (FileStore.document_eq_ok.mpr h.read) hselected
  dsimp only
  rw [perform_run_identify, perform_bind_of_ok hsetup, hline, hextractor]
  exact ⟨line, rfl, ⟨rfl, rfl⟩, hidentifies⟩

end Reported

/-- **All or nothing.** Whatever is logged, the command for one document has a report when the
extraction succeeds or only the totals are missing. Then it prints the report, or leaves it in the
file that is named without the line break and prints nothing, and it fails exactly for missing
totals; the extractor of the report is the profile, or `generic`, that is told for the same
document. In every other case it stops with the session as it was, file or not. -/
theorem process_all_or_nothing
    (hwritable : ∀ text, ∃ store, s.store.write path text = .ok store) :
    let shown := perform (run usual ⟨named, .process input none format source options⟩ level) s
    let filed :=
      perform (run usual ⟨named, .process input (some path) format source options⟩ level) s
    let identified := perform (run usual ⟨named, .identify input source options⟩ level) s
    let name := source.getD (Path.fileName input)
    (∃ pipeline doc answer report,
      Extracts usual named options input source level s pipeline doc answer ∧
      pipeline.Reports doc name answer report ∧
      (shown.1 = Command.verdict (Pipeline.failureOf answer) ∧
        Says (report.write format) s shown.2) ∧
      (filed.1 = Command.verdict (Pipeline.failureOf answer) ∧
        Files path (report.write format) s filed.2) ∧
      ∃ line, identified.1 = .ok () ∧ Says line s identified.2 ∧
        Command.Identifies pipeline doc name report.extractor line) ∨
    ((∀ pipeline doc answer, Extracts usual named options input source level s pipeline doc answer →
        answer = .error .emptyDocument ∨ answer = .error .noData) ∧
      ∃ stop, shown = (.error stop, s) ∧ filed = (.error stop, s)) := by
  intro shown filed identified name
  rcases reports_or_stops usual named options input source level s with
    ⟨pipeline, doc, answer, report, hextracts, hreports⟩ | ⟨stop, hstop, hnone⟩
  · obtain ⟨store, hwrite⟩ := hwritable (report.write format)
    exact .inl ⟨pipeline, doc, answer, report, hextracts, hreports, hextracts.printed hreports,
      hextracts.filed hreports hwrite, hextracts.identified hreports⟩
  · refine .inr ⟨fun pipeline doc answer hextracts => ?_, stop, hstop none format,
      hstop (some path) format⟩
    exact Pipeline.reported?_eq_none.mp (hnone pipeline doc answer hextracts)

/-- The table of a document is printed, and written to a file that is not there yet. -/
theorem process_all_or_nothing_total :
    let s : Session := ⟨⟨"/home", [], [(["a.txt"], "Total 12,10".toUTF8)]⟩, "", ""⟩
    let line (output : Option String) : CommandLine :=
      ⟨none, .process "a.txt" output .csv none ⟨none, none, none⟩⟩
    (∀ text, ∃ store, s.store.write "a.csv" text = .ok store) ∧
      ∃ text, (perform ((line none).run "facta.json") s).2.out = text ++ "\n" ∧
        (perform ((line (some "a.csv")).run "facta.json") s).2.store.content? "a.csv" =
          some text.toUTF8 := by
  intro s line
  have hplace : s.store.place? "a.csv" = some ["a.csv"] := by decide +kernel
  have hwritable : ∀ text, ∃ store, s.store.write "a.csv" text = .ok store := fun _ =>
    FileStore.exists_write_eq_ok hplace (by decide +kernel) (by decide +kernel)
  have hok : (perform ((line none).run "facta.json") s).1.isOk = true := by decide +kernel
  rcases @process_all_or_nothing s "a.txt" "a.csv" .csv ⟨none, none, none⟩ none none .warn
    "facta.json" hwritable with
    ⟨_, _, _, report, -, -, ⟨-, hsays⟩, ⟨-, hfiles⟩, -⟩ | ⟨-, stop, hshown, -⟩
  · exact ⟨hwritable, _, hsays.out.trans (String.empty_append), hfiles.content⟩
  · rw [hshown] at hok
    exact nomatch hok

end CommandLine

end InvoiceFields
