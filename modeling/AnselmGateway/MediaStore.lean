import Mathlib.Data.Int.Notation
import AnselmGateway.Foundation.Table

/-! The media store of `internal/infra/store/mediastore`: uploads, and at most
one lease for each. Every operation is one serialized statement or transaction,
so each is one indivisible step on the tables. -/
namespace AnselmGateway.MediaStore
open Foundation

/-! ## Schema -/

inductive UploadState where
  | open
  | completed
  | aborted
  | expired
  deriving DecidableEq, Repr

inductive LeaseState where
  | active
  | expired
  | deleted
  deriving DecidableEq, Repr

/-- A `media_uploads` row below its primary key `id`. -/
structure Upload where
  installID : String
  expectedSHA256 : String
  mimeType : String
  totalBytes : ℕ
  receivedBytes : ℕ
  state : UploadState
  expiresAt : ℤ
  createdAt : ℤ
  updatedAt : ℤ
  completedAt : Option ℤ
  deriving DecidableEq

def Upload.check (row : Upload) : Bool :=
  decide (0 < row.totalBytes) && decide (row.receivedBytes ≤ row.totalBytes)

/-- A `media_leases` row below its primary key `id`. -/
structure Lease where
  installID : String
  uploadID : String
  sha256 : String
  mimeType : String
  sizeBytes : ℕ
  fetchTokenHash : String
  state : LeaseState
  expiresAt : ℤ
  createdAt : ℤ
  deletedAt : Option ℤ
  deriving DecidableEq

def mediaUploadsSchema : Schema String Upload := ⟨fun _ row => row.check⟩
def mediaLeasesSchema : Schema String Lease := ⟨fun _ row => decide (0 < row.sizeBytes)⟩

/-- The `media_leases` table with its two further unique columns. -/
structure Leases where
  table : Table mediaLeasesSchema
  uploadIDs : (table.rows.map fun row => row.2.uploadID).Nodup
  tokenHashes : (table.rows.map fun row => row.2.fetchTokenHash).Nodup

private theorem nodup_append_new {rows : List (String × Lease)} {id : String} {lease : Lease}
    {column : Lease → String} (unique : (rows.map fun row => column row.2).Nodup)
    (fresh : column lease ∉ rows.map fun row => column row.2) :
    ((rows ++ [(id, lease)]).map fun row => column row.2).Nodup := by
  rw [List.map_append, List.map_singleton]
  refine List.nodup_append.mpr ⟨unique, List.nodup_singleton _, fun held member added single => ?_⟩
  rw [List.mem_singleton.mp single]
  exact fun same => fresh (same ▸ member)

/-- `INSERT INTO media_leases`. -/
def Leases.insert (leases : Leases) (id : String) (lease : Lease) : Except Refusal Leases :=
  if taken : lease.uploadID ∈ leases.table.rows.map (fun row => row.2.uploadID) ∨
      lease.fetchTokenHash ∈ leases.table.rows.map fun row => row.2.fetchTokenHash then
    .error .unique
  else
    match ran : leases.table.insert id lease with
    | .error refusal => .error refusal
    | .ok table => .ok {
        table := table
        uploadIDs := by
          rw [(Table.insert_ok ran).1]
          exact nodup_append_new leases.uploadIDs (not_or.mp taken).1
        tokenHashes := by
          rw [(Table.insert_ok ran).1]
          exact nodup_append_new leases.tokenHashes (not_or.mp taken).2 }

/-- The one kind of lease update: a new state, and with it a deletion time. -/
def Lease.retire (state : LeaseState) (deletedAt : Option ℤ) (lease : Lease) : Lease :=
  { lease with state := state, deletedAt := deletedAt.or lease.deletedAt }

private theorem map_retire {rows : List (String × Lease)} {matching : String → Lease → Bool}
    {state : LeaseState} {deletedAt : Option ℤ} {column : Lease → String}
    (fixed : ∀ lease, column (lease.retire state deletedAt) = column lease) :
    ((rows.map fun row => (row.1, if matching row.1 row.2 then row.2.retire state deletedAt else row.2)).map
      fun row => column row.2) = rows.map fun row => column row.2 := by
  rw [List.map_map]
  refine List.map_congr_left fun row _ => ?_
  dsimp only [Function.comp]
  split
  · exact fixed _
  · rfl

/-- `UPDATE media_leases SET state`, with the affected rows. -/
def Leases.retireWhere (leases : Leases) (matching : String → Lease → Bool) (state : LeaseState)
    (deletedAt : Option ℤ) : Except Refusal (Leases × ℕ) :=
  match ran : leases.table.updateWhere matching (Lease.retire state deletedAt) with
  | .error refusal => .error refusal
  | .ok (table, count) => .ok ({
      table := table
      uploadIDs := by
        rw [(Table.rows_updateWhere ran).1, map_retire fun _ => rfl]
        exact leases.uploadIDs
      tokenHashes := by
        rw [(Table.rows_updateWhere ran).1, map_retire fun _ => rfl]
        exact leases.tokenHashes }, count)

/-- The media tables. -/
structure Database where
  uploads : Table mediaUploadsSchema
  leases : Leases

def Database.empty : Database := ⟨.empty, ⟨.empty, List.nodup_nil, List.nodup_nil⟩⟩

/-! ## Operations -/

/-- An `UPDATE media_uploads`, with its affected rows. -/
def updateUploads (matching : String → Upload → Bool) (assign : Upload → Upload) (db : Database) :
    Except Refusal (ℕ × Database) :=
  match db.uploads.updateWhere matching assign with
  | .error refusal => .error refusal
  | .ok (uploads, count) => .ok (count, { db with uploads := uploads })

/-- An `UPDATE media_leases`, with its affected rows. -/
def updateLeases (matching : String → Lease → Bool) (state : LeaseState) (deletedAt : Option ℤ)
    (db : Database) : Except Refusal (ℕ × Database) :=
  match db.leases.retireWhere matching state deletedAt with
  | .error refusal => .error refusal
  | .ok (leases, count) => .ok (count, { db with leases := leases })

/-- `CreateUpload`. -/
def createUpload (id : String) (upload : Upload) (db : Database) : Except Refusal Database :=
  match db.uploads.insert id upload with
  | .error refusal => .error refusal
  | .ok uploads => .ok { db with uploads := uploads }

/-- `GetUploadForInstall`. -/
def getUploadForInstall (installID uploadID : String) (db : Database) : Option Upload :=
  (db.uploads.get? uploadID).filter fun upload => upload.installID = installID

/-- `AbortOpen`. -/
def abortOpen (installID uploadID : String) (now : ℤ) (db : Database) :
    Except Refusal (Bool × Database) := do
  let (n, after) ← updateUploads
    (Table.at' uploadID fun row => decide (row.installID = installID) &&
      decide (row.state = .open) && decide (row.expiresAt > now))
    (fun row => { row with state := .aborted, updatedAt := now }) db
  return (decide (n = 1), after)

/-- `AdvanceReceived`: a compare-and-set of the cursor. -/
def advanceReceived (installID uploadID : String) (expectedReceived nextReceived : ℕ) (now : ℤ)
    (db : Database) : Except Refusal (Bool × Database) :=
  if nextReceived < expectedReceived then .ok (false, db)
  else do
    let (n, after) ← updateUploads
      (Table.at' uploadID fun row => decide (row.installID = installID) &&
        decide (row.state = .open) && decide (row.expiresAt > now) &&
        decide (row.receivedBytes = expectedReceived) && decide (nextReceived ≤ row.totalBytes))
      (fun row => { row with receivedBytes := nextReceived, updatedAt := now }) db
    return (decide (n = 1), after)

/-- `CompleteUpload`: seal the upload and insert its lease, or neither. -/
def completeUpload (installID uploadID actualSHA256 : String) (now : ℤ) (leaseID : String)
    (lease : Lease) (db : Database) : Except Refusal (Bool × Database) := do
  let (n, sealed) ← updateUploads
    (Table.at' uploadID fun row => decide (row.installID = installID) &&
      decide (row.state = .open) && decide (row.expiresAt > now) &&
      decide (row.receivedBytes = row.totalBytes) && decide (row.expectedSHA256 = actualSHA256))
    (fun row => { row with state := .completed, completedAt := some now, updatedAt := now }) db
  if n = 0 then return (false, sealed)
  else
    let leases ← sealed.leases.insert leaseID
      { lease with installID := installID, uploadID := uploadID, sha256 := actualSHA256,
                   state := .active, deletedAt := none }
    return (true, { sealed with leases := leases })

/-- `GetLeaseForInstall`. -/
def getLeaseForInstall (installID leaseID : String) (db : Database) : Option Lease :=
  (db.leases.table.get? leaseID).filter fun lease => lease.installID = installID

/-- `GetLease`. -/
def getLease (leaseID : String) (db : Database) : Option Lease := db.leases.table.get? leaseID

/-- `Expire`: uploads still open and leases still active past their time. -/
def expire (now : ℤ) (db : Database) : Except Refusal Database := do
  let (_, uploads) ← updateUploads
    (fun _ row => decide (row.state = .open) && decide (row.expiresAt ≤ now))
    (fun row => { row with state := .expired, updatedAt := now }) db
  let (_, after) ← updateLeases
    (fun _ row => decide (row.state = .active) && decide (row.expiresAt ≤ now)) .expired none uploads
  return after

/-- `OpenUploads`. -/
def openUploads (db : Database) : List (String × Upload) :=
  db.uploads.rows.filter fun row => row.2.state = .open

/-- `ExpiredFileIDs`: uploads aborted or expired, or under an expired lease. -/
def expiredFileIDs (db : Database) : List String :=
  (db.uploads.rows.filter fun row =>
    decide (row.2.state = .aborted) || decide (row.2.state = .expired) ||
      db.leases.table.rows.any fun lease =>
        decide (lease.2.uploadID = row.1) && decide (lease.2.state = .expired)).map Prod.fst

/-- `ExpireOpen`. -/
def expireOpen (uploadID : String) (now : ℤ) (db : Database) : Except Refusal Database := do
  let (_, after) ← updateUploads (Table.at' uploadID fun row => decide (row.state = .open))
    (fun row => { row with state := .expired, updatedAt := now }) db
  return after

/-- `AcknowledgeRemoved`: an aborted or expired row goes, a completed one stays
and its lease is marked deleted. -/
def acknowledgeRemoved (uploadID : String) (now : ℤ) (db : Database) : Except Refusal Database :=
  let (uploads, n) := db.uploads.deleteWhere
    (Table.at' uploadID fun row => decide (row.state = .aborted) || decide (row.state = .expired))
  if n > 0 then .ok { db with uploads := uploads }
  else do
    let (_, after) ← updateLeases
      (fun _ row => decide (row.uploadID = uploadID) && decide (row.state = .expired))
      .deleted (some now) { db with uploads := uploads }
    return after

/-- `RevokeLease`. -/
def revokeLease (installID leaseID : String) (db : Database) : Except Refusal (Bool × Database) := do
  let (n, after) ← updateLeases
    (Table.at' leaseID fun row => decide (row.installID = installID) && decide (row.state = .active))
    .expired none db
  return (decide (n = 1), after)

end AnselmGateway.MediaStore
