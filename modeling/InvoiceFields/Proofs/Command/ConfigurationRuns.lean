import InvoiceFields.Proofs.Command.Configuration

/-!
# Runs of commands on one configuration file

Whatever commands are performed on a configuration file, the file always holds a configuration; a
command that fails leaves its bytes alone, and a part that is changed is the only one that changes
(`CommandLine.keepsConfig`).
-/

namespace InvoiceFields

open InvoiceFields.Action (perform perform_clock_bind)
open Setup (readConfig storedConfig)

/-- The file at a path is missing, or a configuration can be loaded from it. -/
def Session.Intact (path : String) (s : Session) : Prop :=
  s.store.content? path = none ∨ ∃ c, perform (readConfig path) s = (.ok c, s)

/-- The configuration `c'`, seen as JSON, is `c` with what is at a place replaced by what its own
type makes of a value. -/
def Config.ChangedAt (names : List String) (value : Json) (c c' : Config) : Prop :=
  (∃ part, Config.readPart names (Json.Tree.ofJson value) = .ok part ∧
    c'.toJson.canonical.get? names = some part) ∧
  ∀ place, ¬ names <+: place → ¬ place <+: names →
    c'.toJson.canonical.get? place = c.toJson.canonical.get? place

namespace CommandLine

variable {usual path : String} {line : CommandLine} {s : Session}

/-- The command line asks for something with the configuration file at a path. -/
def OnConfig (usual path : String) (line : CommandLine) : Prop :=
  match line.invocation with
  | .showConfig | .getConfig _ | .setConfig _ _ | .configPath => line.config.getD usual = path
  | .initConfig output _ => output.getD (line.config.getD usual) = path
  | _ => False

/-- The session that a command line leaves. -/
def after (usual : String) (s : Session) (line : CommandLine) : Session :=
  (perform (line.run usual) s).2

/-- What a command line guarantees for the configuration file at a path. -/
structure KeepsConfig (usual path : String) (s : Session) (line : CommandLine) : Prop where
  intact : (line.after usual s).Intact path
  failure : ∀ stop, (perform (line.run usual) s).1 = .error stop →
    (line.after usual s).store.content? path = s.store.content? path
  init : ∀ output, line.invocation = .initConfig output false → (s.store.kind? path).isSome →
    (line.after usual s).store = s.store
  set : ∀ key word, line.invocation = .setConfig key word →
    (perform (line.run usual) s).1 = .ok () →
      ∃ c c', perform (storedConfig path) s = (.ok c, s) ∧
        perform (readConfig path) (line.after usual s) = (.ok c', line.after usual s) ∧
        Config.ChangedAt (Json.keyNames key) (Command.valueOf word) c c'

end CommandLine

/-! ### Files that are left or replaced -/

theorem Session.intact_iff {path : String} {s : Session} : s.Intact path ↔
    s.store.content? path = none ∨ ∃ c, s.store.config path = .ok c := by
  simp [Intact, Setup.perform_readConfig]

theorem Session.Intact.of_content?_eq {path : String} {s s' : Session} (h : s.Intact path)
    (hcontent : s'.store.content? path = s.store.content? path) : s'.Intact path := by
  rw [intact_iff] at h ⊢
  simp only [FileStore.config_eq_ok, FileStore.text_eq_ok, hcontent] at h ⊢
  exact h

theorem Session.intact_of_content? {path : String} {s : Session} {c : Config} (hc : c.Storable)
    (h : s.store.content? path = some c.toJson.pretty.toUTF8) : s.Intact path :=
  intact_iff.mpr (.inr ⟨c, FileStore.config_of_content? hc h⟩)

/-! ### Values -/

/-- The numbers of a value that a word stands for have 64 bits. -/
theorem Command.fits_valueOf (word : String) : (Json.Tree.ofJson (valueOf word)).Fits := by
  unfold valueOf
  split
  · rename_i value hvalue
    have hjson := (Json.decode_eq_ok.mp hvalue).1
    exact Json.Tree.fits_canonical ((Json.Reading.fits_tree word).ofJson hjson)
  · trivial

/-- What is read after a change has numbers of 64 bits. -/
theorem Config.storable_of_put? {c c' : Config} {names : List String} {value changed : Json}
    (hc : c.Storable) (hvalue : (Json.Tree.ofJson value).Fits)
    (hput : c.toJson.canonical.put? value names = some changed)
    (hread : Config.ofTree (Json.Tree.ofJson changed) = .ok c') : c'.Storable := by
  have hfits : (Json.Tree.ofJson c.toJson.canonical).Fits :=
    Json.Tree.fits_canonical (Json.Tree.fits_of_isWhole (isWhole_toJson hc).1)
  exact storable_of_ofTree (Json.fits_put? hfits hvalue hput) hread

theorem Config.changedAt_of_put? {c c' : Config} {names : List String} {value changed : Json}
    (hput : c.toJson.canonical.put? value names = some changed)
    (hread : Config.ofTree (Json.Tree.ofJson changed) = .ok c') : ChangedAt names value c c' := by
  obtain ⟨part, hpart, hchange⟩ := Config.editable.put hput hread
  exact ⟨⟨part, hpart, Json.get?_put?_self hchange⟩,
    fun _ hbelow habove => Json.get?_put?_apart hchange hbelow habove⟩

/-! ### Steps and runs -/

namespace CommandLine

variable {usual path : String} {line : CommandLine} {s : Session}

/-- A command line that leaves the store as it is. -/
theorem KeepsConfig.of_store_eq (hs : s.Intact path) (hstore : (line.after usual s).store = s.store)
    (hset : ∀ key word, line.invocation ≠ .setConfig key word) : line.KeepsConfig usual path s where
  intact := hs.of_content?_eq (by rw [hstore])
  failure _ _ := by rw [hstore]
  init _ _ _ := hstore
  set key word h := absurd h (hset key word)

theorem keepsConfig_init {config output : Option String} {force : Bool}
    (hpath : output.getD (config.getD usual) = path) (hs : s.Intact path) :
    KeepsConfig usual path s ⟨config, .initConfig output force⟩ := by
  subst hpath
  let line : CommandLine := ⟨config, .initConfig output force⟩
  have hrun : perform (Command.initConfig (output.getD (config.getD usual)) force) s =
    ((perform (line.run usual) s).1, line.after usual s) := rfl
  refine ⟨?_, fun stop hstop => ?_, ?_, nofun⟩
  · obtain ⟨-, hcontent⟩ | ⟨-, -, hcontent⟩ := Command.perform_initConfig hrun
    · exact Session.intact_of_content? Config.storable_standard hcontent
    · exact hs.of_content?_eq hcontent
  · obtain ⟨hok, -⟩ | ⟨-, -, hcontent⟩ := Command.perform_initConfig hrun
    · exact nomatch hstop.symm.trans hok
    · exact hcontent
  · rintro _ ⟨⟩ hexists
    obtain ⟨_, hfail⟩ := Command.perform_initConfig_of_exists hexists
    exact congrArg (fun r => r.2.store) (hrun.symm.trans hfail)

theorem keepsConfig_set {config : Option String} {key word : String}
    (hpath : config.getD usual = path) (hs : s.Intact path) :
    KeepsConfig usual path s ⟨config, .setConfig key word⟩ := by
  subst hpath
  let line : CommandLine := ⟨config, .setConfig key word⟩
  have hrun : perform (Command.setConfig (config.getD usual) key word) s =
    ((perform (line.run usual) s).1, line.after usual s) := rfl
  obtain ⟨hok, c, changed, c', hstored, hput, hread, hcontent⟩ | ⟨stop, hstop, hcontent⟩ :=
    Command.perform_setConfig hrun
  · -- numbers beyond 64 bits would not be read again, but no word stands for one
    have hc' : c'.Storable := Config.storable_of_put? (FileStore.storable_of_storedConfig hstored)
      (Command.fits_valueOf word) hput hread
    refine ⟨Session.intact_of_content? hc' hcontent, fun stop hstop => ?_, nofun, ?_⟩
    · exact nomatch hstop.symm.trans hok
    · rintro _ _ ⟨⟩ -
      refine ⟨c, c', ?_, ?_, Config.changedAt_of_put? hput hread⟩
      · rw [Setup.perform_storedConfig, hstored]
      · rw [Setup.perform_readConfig, FileStore.config_of_content? hc' hcontent]
  · refine ⟨hs.of_content?_eq hcontent, fun _ _ => hcontent, nofun, fun key word _ hok => ?_⟩
    exact nomatch hstop.symm.trans hok

/-- A command line keeps the configuration file that it is about. -/
theorem keepsConfig_step (hline : line.OnConfig usual path) (hs : s.Intact path) :
    line.KeepsConfig usual path s := by
  obtain ⟨config, invocation⟩ := line
  cases invocation with
  | process | batch | checkRules | listOverrides | identify => exact hline.elim
  | showConfig => exact .of_store_eq hs Command.store_showConfig nofun
  | getConfig key => exact .of_store_eq hs Command.store_getConfig nofun
  | configPath => exact .of_store_eq hs Command.store_configPath nofun
  | initConfig output force => exact keepsConfig_init hline hs
  | setConfig key word => exact keepsConfig_set hline hs

/-- In a run of commands on one configuration file that is missing or intact at the start, every
command keeps it. -/
theorem keepsConfig (lines : List CommandLine) (hlines : ∀ line ∈ lines, line.OnConfig usual path)
    (hs : s.Intact path) {front back : List CommandLine} (hsplit : lines = front ++ line :: back) :
    line.KeepsConfig usual path (front.foldl (after usual) s) := by
  subst hsplit
  -- the commands in front leave the file intact, which is all that the next one needs
  induction front generalizing s with
  | nil => exact keepsConfig_step (hlines line List.mem_cons_self) hs
  | cons first front ih =>
    have hfirst := keepsConfig_step (hlines first List.mem_cons_self) hs
    exact ih hfirst.intact fun l hl => hlines l (List.mem_cons_of_mem first hl)

/-- The first part that is set makes the file. -/
theorem keepsConfig_set_fresh :
    let s : Session := ⟨⟨"/home", [], []⟩, "", ""⟩
    let set : CommandLine := ⟨none, .setConfig "batch.jobs" "8"⟩
    (perform (set.run "facta.json") s).1.isOk ∧ set.KeepsConfig "facta.json" "facta.json" s := by
  intro s set
  let init : CommandLine := ⟨none, .initConfig none false⟩
  have hlines : ∀ line ∈ [set, init], line.OnConfig "facta.json" "facta.json" := by
    simp only [List.forall_mem_cons, List.not_mem_nil, false_implies, implies_true, and_true]
    exact ⟨rfl, rfl⟩
  have hstart : s.Intact "facta.json" := .inl (by decide +kernel)
  have hkeeps : set.KeepsConfig "facta.json" "facta.json" (([] : List CommandLine).foldl _ s) :=
    keepsConfig [set, init] hlines hstart rfl
  exact ⟨by decide +kernel, hkeeps⟩

end CommandLine

end InvoiceFields
