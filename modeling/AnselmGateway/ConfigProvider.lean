import AnselmGateway.Foundation.Run
import AnselmGateway.Foundation.Table
import AnselmGateway.RuntimeConfig

/-! The live configuration of `internal/infra/configprovider` over the settings overlay of
`internal/infra/store/settingsstore`. A mutex serializes the writers, so each call is one
step; its transaction may fail at any statement. -/
namespace AnselmGateway.ConfigProvider
open Foundation RuntimeConfig

/-! ## The overlay -/

/-- A `settings` row below its key. -/
structure Setting where
  value : String
  updatedAt : ℤ
  deriving DecidableEq

def settingsSchema : Schema String Setting := ⟨fun _ _ => true⟩

abbrev Settings := Table settingsSchema

/-- Where the database fails a call: opening the transaction, at a statement by its
number, or committing. -/
structure Faults where
  opening : Bool := false
  statement : ℕ → Bool := fun _ => false
  commit : Bool := false

inductive SettingsError where
  | opening
  | upsert (key : String)
  | commit
  deriving DecidableEq

/-- One `INSERT … ON CONFLICT(key) DO UPDATE`. -/
def upsert (fails : Bool) (now : ℤ) (key value : String) : Tx Settings SettingsError Unit := fun settings =>
  if fails then (.error (.upsert key), settings)
  else match settings.upsertWhere key ⟨value, now⟩ (fun _ => true) (fun _ => ⟨value, now⟩) with
    | .error _ => (.error (.upsert key), settings)
    | .ok (after, _) => (.ok (), after)

def upsertEach (faults : Faults) (now : ℤ) : ℕ → List (String × String) → Tx Settings SettingsError Unit
  | _, [] => pure ()
  | i, (key, value) :: rest => do
    upsert (faults.statement i) now key value
    upsertEach faults now (i + 1) rest

def commit (faults : Faults) : Tx Settings SettingsError Unit :=
  Tx.ofExcept (if faults.commit then .error .commit else .ok ())

/-- `PersistAll`. -/
def persistAll (faults : Faults) (now : ℤ) (overlay : Overrides) : Tx Settings SettingsError Unit :=
  if overlay.entries = [] then pure ()
  else if faults.opening then Tx.fail .opening
  else Tx.transaction (do
    upsertEach faults now 0 overlay.entries
    commit faults)

/-- `LoadAll`. -/
def loadAll (settings : Settings) : Overrides where
  entries := settings.rows.map fun row => (row.1, row.2.value)
  unique := by simpa [List.map_map, Function.comp_def] using settings.unique

/-! ## The provider -/

inductive ProviderError where
  | overlayRead (message : String)
  | overlay (cause : ConfigError)
  | overrides (cause : ConfigError)
  | persist (cause : SettingsError)
  deriving DecidableEq

/-- `snapshot`. -/
structure Snapshot where
  configured : Config
  effective : Config

/-- `publish`. -/
def publish (configured : Config) : Snapshot := ⟨configured, configured.effectiveLimits⟩

/-- `LoadWithOverlay`, on what its loader returns. -/
def loadWithOverlay (base : Config) : Except String Overrides → Except ProviderError Config
  | .error message => .error (.overlayRead message)
  | .ok overlay =>
    if overlay.entries = [] then .ok base
    else match RuntimeConfig.applyOverrides base overlay with
      | .error cause => .error (.overlay cause)
      | .ok merged => .ok merged

/-- The provider over its store. -/
structure State where
  cur : Snapshot
  settings : Settings

/-- One call of `ApplyOverrides`, and how the database takes it. -/
structure Call where
  overrides : Overrides
  now : ℤ
  faults : Faults

/-- `ApplyOverrides`: validate, persist, and only then swap. -/
def applyOverrides (call : Call) (s : State) : Except ProviderError Config × State :=
  if call.overrides.entries = [] then (.ok s.cur.effective, s)
  else match RuntimeConfig.applyOverrides s.cur.configured call.overrides with
    | .error cause => (.error (.overrides cause), s)
    | .ok next =>
      match persistAll call.faults call.now call.overrides s.settings with
      | (.error cause, settings) => (.error (.persist cause), { s with settings := settings })
      | (.ok (), settings) => (.ok (publish next).effective, ⟨publish next, settings⟩)

/-- `New`, over a store nothing was saved in. -/
def start (base : Config) : State := ⟨publish base, .empty⟩

/-- What a sequence of calls leaves. -/
def after (base : Config) (calls : List Call) : State :=
  runSteps (fun s call => (applyOverrides call s).2) (start base) calls

end AnselmGateway.ConfigProvider
