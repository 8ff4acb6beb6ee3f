import AnselmGateway.Foundation.Bytes
import AnselmGateway.Foundation.Table

/-! The install store of `internal/infra/store/installstore`: one transaction
runs the enabled issuance gates in order and inserts the install, so a later
rejection leaves no earlier counter bumped. -/
namespace AnselmGateway.InstallStore
open Foundation

/-! ## Schema -/

/-- `Status`. -/
inductive Status where
  | active
  | banned
  deriving DecidableEq, Repr

/-- An `installs` row below its primary key `id`. -/
structure InstallRow where
  publicKey : Bytes
  keyThumbprint : String
  fingerprint : Option String
  client : Option String
  status : Status
  createdAt : ℤ
  lastSeenAt : Option ℤ
  deriving DecidableEq

/-- An `install_fp_rate` row. The one statement that writes `last_at` writes an
instant, and the stored texts compare as instants do. -/
structure FPRateRow where
  count : ℤ
  lastAt : ℤ
  deriving DecidableEq

def installsSchema : Schema String InstallRow := ⟨fun _ _ => true⟩
def ipRateSchema : Schema (String × String) ℤ := ⟨fun _ _ => true⟩
def globalRateSchema : Schema String ℤ := ⟨fun _ _ => true⟩
def fpRateSchema : Schema (String × String) FPRateRow := ⟨fun _ _ => true⟩

/-- The `installs` table with its second unique column. -/
structure Installs where
  table : Table installsSchema
  thumbprints : (table.rows.map fun row => row.2.keyThumbprint).Nodup

/-- `SELECT id FROM installs WHERE key_thumbprint = ?`. -/
def Installs.idOf (installs : Installs) (thumbprint : String) : Option String :=
  (installs.table.rows.find? fun row => row.2.keyThumbprint = thumbprint).map Prod.fst

/-- `INSERT INTO installs`, refused for a taken id or thumbprint. -/
def Installs.insert (installs : Installs) (id : String) (row : InstallRow) :
    Except Refusal Installs :=
  if taken : row.keyThumbprint ∈ installs.table.rows.map fun row => row.2.keyThumbprint then
    .error .unique
  else
    match ran : installs.table.insert id row with
    | .error refusal => .error refusal
    | .ok table => .ok {
        table := table
        thumbprints := by
          rw [(Table.insert_ok ran).1, List.map_append, List.map_singleton]
          exact List.nodup_append.mpr ⟨installs.thumbprints, List.nodup_singleton _,
            fun held member added single => by
              rw [List.mem_singleton.mp single]
              exact fun same => taken (same ▸ member)⟩ }

/-- The install tables. Keys are in primary-key order. -/
structure Database where
  installs : Installs
  /-- `(ip_key, window_hour)` to `count`. -/
  installIPRate : Table ipRateSchema
  /-- `window_day` to `count`. -/
  installGlobalRate : Table globalRateSchema
  /-- `(fp_sha256, window_day)`. -/
  installFPRate : Table fpRateSchema

def Database.empty : Database := ⟨⟨.empty, List.nodup_nil⟩, .empty, .empty, .empty⟩

def installIPRate : Part Database (Table ipRateSchema) :=
  ⟨Database.installIPRate, fun table db => { db with installIPRate := table }, fun _ _ => rfl⟩

def installGlobalRate : Part Database (Table globalRateSchema) :=
  ⟨Database.installGlobalRate, fun table db => { db with installGlobalRate := table },
    fun _ _ => rfl⟩

def installFPRate : Part Database (Table fpRateSchema) :=
  ⟨Database.installFPRate, fun table db => { db with installFPRate := table }, fun _ _ => rfl⟩

/-! ## Parameters and results -/

structure IPGate where
  enabled : Bool
  key : String
  windowHour : String
  max : ℤ
  deriving DecidableEq

structure GlobalGate where
  enabled : Bool
  windowDay : String
  cap : ℤ
  deriving DecidableEq

structure FPGate where
  enabled : Bool
  fpSHA256 : String
  windowDay : String
  cap : ℤ
  cutoff : ℤ
  deriving DecidableEq

/-- The resolved input of one issuance. -/
structure IssueParams where
  installID : String
  publicKey : Bytes
  thumbprint : String
  fingerprint : String
  client : String
  now : ℤ
  ipGate : IPGate
  globalGate : GlobalGate
  fpGate : FPGate
  deriving DecidableEq

/-- `Gate`: which guardrail tripped. -/
inductive Gate where
  | none
  | ip
  | global
  | fp
  deriving DecidableEq, Repr

structure IssueResult where
  admitted : Bool
  gate : Gate
  installID : String
  existing : Bool
  deriving DecidableEq, Repr

/-- How the transaction of an issuance stops early: `errGateReject`, whose
result carries the gate, or a refused statement. -/
inductive Stop where
  | gateReject (gate : Gate)
  | statement (refusal : Refusal)
  deriving DecidableEq

abbrev StoreTx := Tx Database Stop

/-! ## Statements and gates -/

/-- One statement on one table, with its affected rows. -/
def exec {κ ν : Type} {schema : Schema κ ν} (part : Part Database (Table schema))
    (statement : Table schema → Except Refusal (Table schema × ℕ)) : StoreTx ℕ := fun db =>
  match statement (part.get db) with
  | .error refusal => (.error (.statement refusal), db)
  | .ok (table, count) => (.ok count, part.set table db)

/-- `DELETE … WHERE` on the keys a rate gate has left behind. -/
def prune {κ ν : Type} {schema : Schema κ ν} (part : Part Database (Table schema)) (stale : κ → Bool) :
    StoreTx Unit := do
  let _ ← exec part fun table => .ok (table.deleteWhere fun key _ => stale key)

/-- The counted window of the per-IP and the global gate: `INSERT OR IGNORE` at
zero, then a conditional bump. -/
def bumpWindow {κ : Type} [DecidableEq κ] {schema : Schema κ ℤ} (part : Part Database (Table schema))
    (key : κ) (max : ℤ) : StoreTx Bool := do
  let _ ← exec part fun table => (table.insertOrIgnore key 0).map fun after => (after, 0)
  let n ← exec part fun table =>
    table.updateWhere (Table.at' key fun count => decide (count < max)) fun count => count + 1
  return decide (0 < n)

/-- `bumpIPRate`. -/
def bumpIPRate (g : IPGate) : StoreTx Bool := do
  prune installIPRate fun key => decide (key.1 = g.key) && decide (key.2 < g.windowHour)
  bumpWindow installIPRate (g.key, g.windowHour) g.max

/-- `bumpGlobalRate`. -/
def bumpGlobalRate (g : GlobalGate) : StoreTx Bool := do
  prune installGlobalRate fun windowDay => decide (windowDay < g.windowDay)
  bumpWindow installGlobalRate g.windowDay g.cap

/-- `bumpFPRate`: both sub-gates in one upsert. What it stores as `last_at` is
the cutoff. -/
def bumpFPRate (g : FPGate) : StoreTx Bool := do
  prune installFPRate fun key => decide (key.1 = g.fpSHA256) && decide (key.2 < g.windowDay)
  let n ← exec installFPRate fun table =>
    table.upsertWhere (g.fpSHA256, g.windowDay) ⟨1, g.cutoff⟩
      (fun row => decide (row.count < g.cap) && decide (row.lastAt < g.cutoff))
      (fun row => ⟨row.count + 1, g.cutoff⟩)
  return decide (0 < n)

/-- What one gate says: a disabled one admits before any statement. -/
def verdict (enabled : Bool) (bump : StoreTx Bool) : StoreTx Bool :=
  if enabled then bump else return true

/-- One gate of `Issue`: a denial rolls the transaction back. -/
def pass (enabled : Bool) (gate : Gate) (bump : StoreTx Bool) : StoreTx Unit := do
  let ok ← verdict enabled bump
  if ok then return () else Tx.fail (.gateReject gate)

/-! ## Issue -/

/-- `nullStr`. -/
def nullStr (s : String) : Option String := if s = "" then none else some s

def newRow (p : IssueParams) : InstallRow where
  publicKey := p.publicKey
  keyThumbprint := p.thumbprint
  fingerprint := nullStr p.fingerprint
  client := nullStr p.client
  status := .active
  createdAt := p.now
  lastSeenAt := some p.now

/-- `insertInstall`. -/
def insertInstall (id : String) (p : IssueParams) : StoreTx Unit := fun db =>
  match db.installs.insert id (newRow p) with
  | .error refusal => (.error (.statement refusal), db)
  | .ok installs => (.ok (), { db with installs := installs })

/-- `isUniqueConflict`, by the texts the driver reports: any violated constraint
counts, a full table does not. -/
def isUniqueConflict : Refusal → Bool
  | .unique | .check => true
  | .full => false

/-- The insert under the proposed id, tried once more under a new one after a
conflict. -/
def insertFresh (regenerated : String) (p : IssueParams) : StoreTx String := fun db =>
  match insertInstall p.installID p db with
  | (.ok (), after) => (.ok p.installID, after)
  | (.error (.statement refusal), after) =>
    if isUniqueConflict refusal then
      match insertInstall regenerated p after with
      | (.ok (), after) => (.ok regenerated, after)
      | (.error failure, after) => (.error failure, after)
    else (.error (.statement refusal), after)
  | (.error failure, after) => (.error failure, after)

/-- The first two gates: per IP and hour, then the global daily valve. -/
def passAddressGates (p : IssueParams) : StoreTx Unit := do
  pass p.ipGate.enabled .ip (bumpIPRate p.ipGate)
  pass p.globalGate.enabled .global (bumpGlobalRate p.globalGate)

/-- The third gate: per fingerprint. -/
def passFPGate (p : IssueParams) : StoreTx Unit :=
  pass p.fpGate.enabled .fp (bumpFPRate p.fpGate)

/-- The transaction body of `Issue`. -/
def issueBody (regenerated : String) (p : IssueParams) : StoreTx IssueResult := fun db =>
  match db.installs.idOf p.thumbprint with
  | some existingID => (.ok ⟨true, .none, existingID, true⟩, db)
  | none => (do
      passAddressGates p
      passFPGate p
      let actualID ← insertFresh regenerated p
      return ⟨true, .none, actualID, false⟩ : StoreTx IssueResult) db

/-- `Issue`. The second id is what `idgen` would draw on a conflict. -/
def issue (regenerated : String) (p : IssueParams) (db : Database) :
    Except Refusal IssueResult × Database :=
  match Tx.transaction (issueBody regenerated p) db with
  | (.ok result, after) => (.ok result, after)
  | (.error (.gateReject gate), after) => (.ok ⟨false, gate, "", false⟩, after)
  | (.error (.statement refusal), after) => (.error refusal, after)

end AnselmGateway.InstallStore
