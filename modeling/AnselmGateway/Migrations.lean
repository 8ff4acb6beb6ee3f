import Mathlib.Data.List.Infix
import Mathlib.Data.List.Sort
import AnselmGateway.Foundation.Bytes
import AnselmGateway.Foundation.Transaction
import AnselmGateway.Upstream

/-! The migrations of `internal/infra/sqlite`: the embedded files are checked against the
ledger of what was applied, and those that are missing are applied in order, each in a
transaction with its ledger row. A start may be cut off at any statement. -/
namespace AnselmGateway.Migrations
open Foundation

/-! ## Embedded files -/

/-- An entry of the embedded directory, with what it holds. -/
structure DirEntry where
  name : String
  isDir : Bool
  body : Bytes

/-- `migration`. -/
structure Migration where
  version : ℤ
  name : String
  body : Bytes
  checksum : String
  deriving DecidableEq

/-- The points at which a start can be cut off. -/
inductive Moment where
  | ensure
  | scan
  | «begin» (version : ℤ)
  | body (version : ℤ)
  | record (version : ℤ)
  | commit (version : ℤ)
  /-- The commit has happened, but nothing after it. -/
  | committed (version : ℤ)
  deriving DecidableEq

/-- A statement reports an error, or the process is gone. -/
inductive Fault where
  | fails
  | stops
  deriving DecidableEq

inductive MigrateError where
  | missingPrefix (name : String)
  | badPrefix (name : String)
  | duplicateVersion (version : ℤ) (prev name : String)
  | unknownVersion (version maxKnown : ℤ)
  | checksumDrift (name recorded embedded : String)
  /-- A body the database refuses, with its message. -/
  | apply (name message : String)
  /-- A ledger row that is there already. -/
  | record (name : String)
  | halted (moment : Moment) (fault : Fault)
  deriving DecidableEq

/-- `parseVersion`. -/
def parseVersion (name : String) : Except MigrateError ℤ :=
  let version := name.toList.takeWhile (· ≠ '_')
  if version = [] ∨ version = name.toList then .error (.missingPrefix name)
  else match Upstream.atoi (String.ofList version) with
    | none => .error (.badPrefix name)
    | some version => .ok version

/-- The loop of `loadMigrations` over the entries, with the versions seen. -/
def loadEach (sha256 : Bytes → String) : List DirEntry → List (ℤ × String) → List Migration →
    Except MigrateError (List Migration)
  | [], _, out => .ok out
  | e :: entries, seen, out =>
    if e.isDir ∨ ¬".sql".toList <:+ e.name.toList then loadEach sha256 entries seen out
    else match parseVersion e.name with
      | .error error => .error error
      | .ok version =>
        match seen.find? fun entry => entry.1 = version with
        | some (_, prev) => .error (.duplicateVersion version prev e.name)
        | none => loadEach sha256 entries ((version, e.name) :: seen)
            (out ++ [⟨version, e.name, e.body, sha256 e.body⟩])

/-- `loadMigrations`; `sha256` is the checksum in hex. -/
def loadMigrations (sha256 : Bytes → String) (entries : List DirEntry) :
    Except MigrateError (List Migration) :=
  match loadEach sha256 entries [] [] with
  | .error error => .error error
  | .ok out => .ok (out.insertionSort fun a b => a.version ≤ b.version)

/-! ## The database -/

/-- A row of `schema_migrations`. -/
structure Record where
  version : ℤ
  appliedAt : ℤ
  checksum : String
  deriving DecidableEq

/-- `schema_migrations`, by its primary key. -/
structure Ledger where
  rows : List Record
  unique : (rows.map Record.version).Nodup

def Ledger.empty : Ledger := ⟨[], List.nodup_nil⟩

def Ledger.insert (ledger : Ledger) (record : Record)
    (fresh : record.version ∉ ledger.rows.map Record.version) : Ledger where
  rows := ledger.rows ++ [record]
  unique := by
    rw [List.map_append, List.nodup_append]
    refine ⟨ledger.unique, by simp, fun version old other new same => fresh ?_⟩
    rw [List.map_singleton, List.mem_singleton] at new
    rwa [← new, ← same]

/-- The database: the ledger, if it was created, and everything else. -/
structure Database (σ : Type) where
  content : σ
  ledger : Option Ledger

variable {σ : Type}

/-- The rows of the ledger. -/
def Database.rows (db : Database σ) : List Record :=
  match db.ledger with
  | none => []
  | some ledger => ledger.rows

/-- What a start works with from outside: what the database makes of a body, and the
checksum. A body leaves the ledger alone, and its effect is that of the transaction it
runs in. -/
structure Engine (σ : Type) where
  exec : Bytes → Tx σ String Unit
  sha256 : Bytes → String

/-- One start of the process: where it is cut off, what a body has written by then, the
order in which a map is ranged over, and the clock. -/
structure Start (σ : Type) where
  faults : Moment → Option Fault
  torn : ℤ → σ → σ
  range : List Record → List Record
  rangePerm : ∀ records, (range records).Perm records
  clock : ℤ → ℤ

abbrev StartTx (σ : Type) := Tx (Database σ) MigrateError

/-! ## Statements -/

/-- A statement that says nothing but whether it was reached. -/
def reach (start : Start σ) (moment : Moment) : StartTx σ Unit :=
  match start.faults moment with
  | none => pure ()
  | some fault => Tx.fail (.halted moment fault)

/-- `ensureMigrationsTable`. -/
def ensureMigrationsTable (start : Start σ) : StartTx σ Unit := do
  reach start .ensure
  fun db => (.ok (), { db with ledger := some (db.ledger.getD .empty) })

/-- `appliedMigrations`. -/
def appliedMigrations (start : Start σ) : StartTx σ (List Record) := do
  reach start .scan
  fun db => (.ok db.rows, db)

/-- The statement of a body. -/
def execBody (engine : Engine σ) (start : Start σ) (m : Migration) : StartTx σ Unit := fun db =>
  match start.faults (.body m.version) with
  | some fault => (.error (.halted (.body m.version) fault), { db with content := start.torn m.version db.content })
  | none =>
    match engine.exec m.body db.content with
    | (.error message, content) => (.error (.apply m.name message), { db with content := content })
    | (.ok (), content) => (.ok (), { db with content := content })

/-- The `INSERT` of a ledger row. -/
def insertRecord (start : Start σ) (m : Migration) : StartTx σ Unit := do
  reach start (.record m.version)
  fun db =>
    match db.ledger with
    | none => (.error (.record m.name), db)
    | some ledger =>
      let record : Record := ⟨m.version, start.clock m.version, m.checksum⟩
      if fresh : record.version ∉ ledger.rows.map Record.version then
        (.ok (), { db with ledger := some (ledger.insert record fresh) })
      else (.error (.record m.name), db)

/-- `orm.DB.Transaction` on the pool. Where it does not come to its commit the database
is as it was. -/
def transaction (start : Start σ) (version : ℤ) (body : StartTx σ Unit) : StartTx σ Unit := fun db =>
  match start.faults (.begin version) with
  | some fault => (.error (.halted (.begin version) fault), db)
  | none =>
    match body db with
    | (.error error, _) => (.error error, db)
    | (.ok (), after) =>
      match start.faults (.commit version) with
      | some fault => (.error (.halted (.commit version) fault), db)
      | none =>
        match start.faults (.committed version) with
        | some fault => (.error (.halted (.committed version) fault), after)
        | none => (.ok (), after)

/-! ## Migrating -/

/-- `maxKnown`. -/
def maxKnown (migs : List Migration) : ℤ :=
  migs.foldl (fun most m => if m.version > most then m.version else most) 0

/-- The downgrade guard and the checksum check, over the applied versions. -/
def verify (migs : List Migration) : List Record → Except MigrateError Unit
  | [] => .ok ()
  | record :: rest =>
    match migs.find? fun m => m.version = record.version with
    | none => .error (.unknownVersion record.version (maxKnown migs))
    | some m =>
      if record.checksum ≠ m.checksum then .error (.checksumDrift m.name record.checksum m.checksum)
      else verify migs rest

/-- `applyOne`. -/
def applyOne (engine : Engine σ) (start : Start σ) (m : Migration) : StartTx σ Unit :=
  transaction start m.version do
    execBody engine start m
    insertRecord start m

/-- The loop over the migrations, past those that are applied. -/
def applyEach (engine : Engine σ) (start : Start σ) (applied : List Record) :
    List Migration → StartTx σ Unit
  | [] => pure ()
  | m :: rest => do
    if applied.any fun record => record.version = m.version then pure ()
    else applyOne engine start m
    applyEach engine start applied rest

/-- `migrate`. -/
def migrate (engine : Engine σ) (entries : List DirEntry) (start : Start σ) : StartTx σ Unit := do
  let migs ← Tx.ofExcept (loadMigrations engine.sha256 entries)
  ensureMigrationsTable start
  let applied ← appliedMigrations start
  Tx.ofExcept (verify migs (start.range applied))
  applyEach engine start applied migs

/-- What the database is after a start. -/
def restart (engine : Engine σ) (entries : List DirEntry) (db : Database σ) (start : Start σ) : Database σ :=
  (migrate engine entries start db).2

end AnselmGateway.Migrations
