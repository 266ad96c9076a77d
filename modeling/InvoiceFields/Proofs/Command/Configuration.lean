import InvoiceFields.Command.Run
import InvoiceFields.Proofs.Command.DottedKeys
import InvoiceFields.Proofs.Command.Setup
import InvoiceFields.Proofs.Record.Config

/-!
# Commands on the configuration

What is written as a configuration is loaded again (`FileStore.config_of_content?`). Each command
either writes a whole configuration or leaves the file as it was (`perform_initConfig`,
`perform_setConfig`).
-/

namespace InvoiceFields

open InvoiceFields.Action (perform perform_bind_of_ok perform_bind_of_error perform_bind_eq
  perform_liftM)

variable {s s' : Session} {path : String} {c : Config}

/-! ### Loading -/

namespace FileStore

variable {store : FileStore}

/-- What is stored has numbers of 64 bits. -/
theorem storable_of_config (h : store.config path = .ok c) : c.Storable := by
  obtain ⟨text, -, htext⟩ := config_eq_ok.mp h
  exact Config.storable_of_ofTree (Json.Reading.fits_tree text) (Json.decode_eq_ok.mp htext).1

theorem storable_of_storedConfig (h : store.storedConfig path = .ok c) : c.Storable := by
  unfold storedConfig at h
  split at h
  · exact storable_of_config h
  · cases h
    exact Config.storable_standard

/-- The text of a configuration is read as this configuration. -/
theorem config_of_content? (hc : c.Storable)
    (h : store.content? path = some c.toJson.pretty.toUTF8) : store.config path = .ok c := by
  exact config_eq_ok.mpr ⟨_, text_of_content? h, Config.ofText_pretty hc⟩

end FileStore

/-! ### Commands -/

namespace Command

variable {answer : Except Stop Unit} {key word : String} {force : Bool}

/-- Writing a configuration ends with its text in the file, or with the file as it was. -/
theorem perform_writeConfig (h : perform (writeConfig path c) s = (answer, s')) :
    (answer = .ok () ∧ s'.store.content? path = some c.toJson.pretty.toUTF8) ∨
      ∃ stop, answer = .error stop ∧ s'.store.content? path = s.store.content? path := by
  have hwrite : ∀ mid : Session, mid.store.content? path = s.store.content? path →
      perform (Action.writeFile path c.toJson.pretty) mid = (answer, s') →
      (answer = .ok () ∧ s'.store.content? path = some c.toJson.pretty.toUTF8) ∨
        ∃ stop, answer = .error stop ∧ s'.store.content? path = s.store.content? path := by
    intro mid hmid h
    rw [Action.perform_writeFile] at h
    cases hstore : mid.store.write path c.toJson.pretty with
    | error e =>
      rw [hstore] at h
      cases h
      exact .inr ⟨_, rfl, hmid⟩
    | ok store =>
      rw [hstore] at h
      cases h
      exact .inl ⟨rfl, FileStore.content?_write_self hstore⟩
  unfold writeConfig at h
  dsimp only at h
  split at h
  · exact hwrite s rfl h
  · rename_i dir hdir
    have hmake : (Host.makeDirectory dir : StateM Session _) s =
      Session.change (·.makeDirectory dir) s := rfl
    rw [perform_bind_of_ok (perform_liftM _), hmake, Session.change] at h
    cases hstore : s.store.makeDirectory dir with
    | error e =>
      rw [hstore, perform_bind_of_error (Action.perform_expect_error _ e)] at h
      cases h
      exact .inr ⟨_, rfl, rfl⟩
    | ok store =>
      rw [hstore, perform_bind_of_ok (Action.perform_expect_ok _ _)] at h
      exact hwrite _ (FileStore.content?_makeDirectory hstore) h

theorem perform_writeConfig_sayLine {line : String}
    (h : perform (do writeConfig path c; Action.sayLine line) s = (answer, s')) :
    (answer = .ok () ∧ s'.store.content? path = some c.toJson.pretty.toUTF8) ∨
      ∃ stop, answer = .error stop ∧ s'.store.content? path = s.store.content? path := by
  obtain ⟨_, mid, hwrite, h⟩ | ⟨stop, hstop, hanswer⟩ := perform_bind_eq h
  · obtain ⟨-, hcontent⟩ | ⟨stop, hstop, -⟩ := perform_writeConfig hwrite
    · cases h
      exact .inl ⟨rfl, hcontent⟩
    · exact nomatch hstop
  · obtain ⟨hok, -⟩ | ⟨_, -, hcontent⟩ := perform_writeConfig hstop
    · exact nomatch hok
    · exact .inr ⟨stop, hanswer, hcontent⟩

/-- What follows the loading of the configuration is performed on the same session. -/
theorem perform_storedConfig_bind {f : Config → Action (StateM Session) Unit} :
    perform (Setup.storedConfig path >>= f) s =
      match s.store.storedConfig path with
      | .ok c => perform (f c) s
      | .error stop => (.error stop, s) := by
  have hload : perform (Setup.storedConfig path) s = (s.store.storedConfig path, s) :=
    Setup.perform_storedConfig
  cases hstored : s.store.storedConfig path with
  | ok c => exact perform_bind_of_ok (hload.trans (by rw [hstored]))
  | error stop => exact perform_bind_of_error (hload.trans (by rw [hstored]))

/-- Showing the configuration leaves the store as it is. -/
theorem store_showConfig : (perform (showConfig path) s).2.store = s.store := by
  rw [showConfig, perform_storedConfig_bind]
  cases s.store.storedConfig path <;> rfl

/-- Showing a part of the configuration leaves the store as it is. -/
theorem store_getConfig : (perform (getConfig path key) s).2.store = s.store := by
  rw [getConfig, perform_storedConfig_bind]
  cases s.store.storedConfig path with
  | error stop => rfl
  | ok c =>
    dsimp only
    cases lookup c.toJson.canonical key <;> rfl

/-- Telling where the configuration is leaves the store as it is. -/
theorem store_configPath : (perform (configPath path) s).2.store = s.store := rfl

/-- The default configuration is not written over something that is there. -/
theorem perform_initConfig_of_exists (h : (s.store.kind? path).isSome) :
    ∃ message, perform (initConfig path false) s = (.error (.failed message), s) := by
  have hkind : perform (liftM (Host.exists? path : StateM Session Bool)) s = (.ok true, s) :=
    congrArg (fun found => (Except.ok found, s)) h
  refine ⟨"Config file already exists at " ++ path ++ ". Use --force to overwrite.", ?_⟩
  rw [initConfig, perform_bind_of_ok hkind]
  rfl

/-- The default configuration is written, or the file stays as it was. -/
theorem perform_initConfig (h : perform (initConfig path force) s = (answer, s')) :
    (answer = .ok () ∧ s'.store.content? path = some Config.standard.toJson.pretty.toUTF8) ∨
      ∃ stop, answer = .error stop ∧ s'.store.content? path = s.store.content? path := by
  have hkind : perform (liftM (Host.exists? path : StateM Session Bool)) s =
    (.ok (s.store.kind? path).isSome, s) := rfl
  rw [initConfig, perform_bind_of_ok hkind] at h
  dsimp only at h
  split at h
  · cases h
    exact .inr ⟨_, rfl, rfl⟩
  · exact perform_writeConfig_sayLine h

/-- A change of the configuration is written, or the file stays as it was. -/
theorem perform_setConfig (h : perform (setConfig path key word) s = (answer, s')) :
    (answer = .ok () ∧ ∃ c changed c', s.store.storedConfig path = .ok c ∧
      c.toJson.canonical.put? (valueOf word) (Json.keyNames key) = some changed ∧
      Config.ofTree (Json.Tree.ofJson changed) = .ok c' ∧
      s'.store.content? path = some c'.toJson.pretty.toUTF8) ∨
    ∃ stop, answer = .error stop ∧ s'.store.content? path = s.store.content? path := by
  unfold setConfig at h
  dsimp only at h
  rw [perform_storedConfig_bind] at h
  cases hstored : s.store.storedConfig path with
  | error stop =>
    rw [hstored] at h
    cases h
    exact .inr ⟨stop, rfl, rfl⟩
  | ok c =>
    rw [hstored] at h
    dsimp only at h
    cases hput : c.toJson.canonical.put? (valueOf word) (Json.keyNames key) with
    | none =>
      rw [assign_of_put?_eq_none hput] at h
      cases h
      exact .inr ⟨_, rfl, rfl⟩
    | some changed =>
      rw [assign_of_put? hput] at h
      dsimp only at h
      rw [perform_bind_of_ok (Action.perform_expect_ok _ _)] at h
      cases hread : Config.ofTree (Json.Tree.ofJson changed) with
      | error e =>
        rw [hread, perform_bind_of_error (Action.perform_expect_error _ e)] at h
        cases h
        exact .inr ⟨_, rfl, rfl⟩
      | ok c' =>
        rw [hread, perform_bind_of_ok (Action.perform_expect_ok _ c')] at h
        obtain ⟨hanswer, hcontent⟩ | hfailed := perform_writeConfig_sayLine h
        · exact .inl ⟨hanswer, c, changed, c', rfl, hput, hread, hcontent⟩
        · exact .inr hfailed

end Command

end InvoiceFields
