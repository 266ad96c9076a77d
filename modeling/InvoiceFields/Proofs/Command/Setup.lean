import InvoiceFields.Command.Setup
import InvoiceFields.Proofs.Command.Action

/-!
# What commands read from a store

The configuration and the rules of a command depend only on the store, and reading them leaves the
session as it is.
-/

namespace InvoiceFields

open InvoiceFields.Action (perform perform_bind_of_ok perform_bind_of_error perform_liftM)

variable {s : Session} {store : FileStore} {path : String} {c : Config}

/-! ### Configurations -/

/-- The configuration in a file of a store. -/
def FileStore.config (store : FileStore) (path : String) : Except Stop Config :=
  match store.text path with
  | .error e => .error (.failed e.message)
  | .ok text => (Config.ofText text).mapError fun e => .failed e.message

/-- The configuration in a file of a store, the default if there is no such file. -/
def FileStore.storedConfig (store : FileStore) (path : String) : Except Stop Config :=
  if (store.kind? path).isSome then store.config path else .ok .standard

theorem Setup.perform_readConfig : perform (readConfig path) s = (s.store.config path, s) :=
  Action.perform_readText_expect path FileFault.message Json.Fault.message

theorem Setup.perform_storedConfig :
    perform (storedConfig path) s = (s.store.storedConfig path, s) := by
  have hkind : perform (liftM (Host.exists? path : StateM Session Bool)) s =
    (.ok (s.store.kind? path).isSome, s) := rfl
  rw [storedConfig, perform_bind_of_ok hkind, FileStore.storedConfig]
  split
  · exact perform_readConfig
  · rfl

/-- A file holds a configuration if its text does. -/
theorem FileStore.config_eq_ok : store.config path = .ok c ↔
    ∃ text, store.text path = .ok text ∧ Config.ofText text = .ok c := by
  rw [config]
  cases store.text path with
  | error e => simp
  | ok text => simp [mapError_eq_ok]

/-- Reading the configuration of a command that extracts leaves the session as it is. -/
theorem Setup.perform_loadConfig_snd (usual : String) (named : Option String) :
    (perform (loadConfig usual named) s).2 = s := by
  cases named with
  | none => rw [loadConfig, perform_storedConfig]
  | some path => rw [loadConfig, Action.perform_reword, perform_readConfig]

/-! ### Rules -/

/-- The rules in a file of a store. -/
def FileStore.registry (store : FileStore) (path : String) : Except Stop Registry :=
  match store.text path with
  | .error e => .error (.failed ("failed to read rule configuration: " ++ e.message))
  | .ok text => (Registry.ofText text).mapError fun fault => .failed fault.message

/-- The pipeline of a configuration whose rules are in a store. -/
def FileStore.pipeline (store : FileStore) (c : ExtractionConfig) : Except Stop Pipeline :=
  match c.rulesPath with
  | none => .ok (c.pipeline .empty)
  | some path =>
    ((store.registry path).mapError (Stop.reword ("configuration error: " ++ ·))).map c.pipeline

theorem Setup.perform_readRules : perform (readRules path) s = (s.store.registry path, s) :=
  Action.perform_readText_expect path
    (fun e => "failed to read rule configuration: " ++ e.message) RulesFault.message

/-- The pipeline of a configuration has the rules of its file, if it names one. -/
theorem Setup.perform_pipeline (c : ExtractionConfig) :
    perform (Setup.pipeline c) s = (s.store.pipeline c, s) := by
  rw [Setup.pipeline, FileStore.pipeline]
  cases c.rulesPath with
  | none => rfl
  | some path =>
    have hrules := Action.perform_reword (s := s) (a := readRules path)
      ("configuration error: " ++ ·)
    rw [perform_readRules] at hrules
    dsimp only at hrules ⊢
    cases hregistry : s.store.registry path with
    | error stop =>
      rw [hregistry] at hrules
      exact perform_bind_of_error hrules
    | ok registry =>
      rw [hregistry] at hrules
      exact perform_bind_of_ok hrules

end InvoiceFields
