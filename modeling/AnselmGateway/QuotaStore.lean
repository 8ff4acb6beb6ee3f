import AnselmGateway.Foundation.Run
import AnselmGateway.Foundation.Tally
import AnselmGateway.Quota

/-! The accounting store of `internal/infra/store/quotastore` over the schema of
`0001_init.sql`: seven tables, and the operations that read and write them in
serialized transactions. Every statement below is one SQL statement of the
source, in the source's order, with its own conditions. -/
namespace AnselmGateway.QuotaStore
open Foundation Billing Quota

/-! ## Schema -/

/-- `spend_ledger.state`. -/
inductive LedgerState where
  | open
  | settled
  | rolledBack
  | orphaned
  deriving DecidableEq, Repr

def LedgerState.terminal : LedgerState → Bool
  | .open => false
  | .settled | .rolledBack | .orphaned => true

/-- A `spend_ledger` row below its primary key `request_id`. -/
structure LedgerRow where
  installID : String
  provider : String
  model : String
  rateCardID : String
  periodMonth : String
  periodDay : String
  reservedPUSD : ℤ
  chargedPUSD : Option ℤ
  state : LedgerState
  sublimitApplied : Bool
  category : String
  categoryUnits : ℤ
  createdAt : ℤ
  terminalAt : Option ℤ
  deriving DecidableEq

/-- The ledger's compound `CHECK`, in SQL's three truth values (`none` is
`NULL`): the evidence each state must carry. Exactly one disjunct names the
row's state, and the others are false. -/
def LedgerRow.evidence (row : LedgerRow) : Option Bool :=
  match row.state with
  | .open => some (row.chargedPUSD.isNone && row.terminalAt.isNone)
  | .settled => some (row.chargedPUSD.isSome && row.terminalAt.isSome)
  | .rolledBack =>
    if row.terminalAt.isSome then row.chargedPUSD.map fun charged => decide (charged = 0)
    else some false
  | .orphaned =>
    if row.terminalAt.isSome then
      row.chargedPUSD.map fun charged => decide (charged = row.reservedPUSD)
    else some false

/-- All checks of the row. A `CHECK` refuses only what evaluates to false, so a
`NULL` charge passes its own column check. -/
def LedgerRow.check (row : LedgerRow) : Bool :=
  row.provider == providerQwen && decide (0 < row.reservedPUSD) &&
    row.chargedPUSD.all (fun charged => decide (0 ≤ charged)) && row.evidence != some false

/-- A balance row of the four spend tables. -/
@[ext] structure SpendRow where
  spendPUSD : ℤ
  requests : ℤ
  deriving DecidableEq

instance : Zero SpendRow := ⟨⟨0, 0⟩⟩

@[simp] theorem SpendRow.zero_spend : (0 : SpendRow).spendPUSD = 0 := rfl
@[simp] theorem SpendRow.zero_requests : (0 : SpendRow).requests = 0 := rfl

def SpendRow.check (row : SpendRow) : Bool :=
  decide (0 ≤ row.spendPUSD) && decide (0 ≤ row.requests)

def quotaMonthlySchema : Schema (String × String) ℤ := ⟨fun _ requests => decide (0 ≤ requests)⟩

def installSpendSchema : Schema (String × String) SpendRow := ⟨fun _ row => row.check⟩

def globalSpendSchema : Schema String SpendRow := ⟨fun _ row => row.check⟩

def providerSpendSchema : Schema (String × String) SpendRow :=
  ⟨fun key row => key.1 == providerQwen && row.check⟩

def installCategorySchema : Schema (String × String × String) ℤ :=
  ⟨fun _ units => decide (0 ≤ units)⟩

def spendLedgerSchema : Schema String LedgerRow := ⟨fun _ row => row.check⟩

/-- The accounting tables. Keys are in primary-key order. -/
structure Database where
  /-- `(install_id, period_month)` to `requests`. -/
  quotaMonthly : Table quotaMonthlySchema
  /-- `(install_id, period_day)`. -/
  installSpendDaily : Table installSpendSchema
  /-- `(install_id, category, period_day)` to `units`. -/
  installCategoryDaily : Table installCategorySchema
  /-- `(provider, period_day)`. -/
  providerSpendDaily : Table providerSpendSchema
  /-- `period_day`. -/
  globalSpendDaily : Table globalSpendSchema
  /-- `period_month`. -/
  globalSpendMonthly : Table globalSpendSchema
  /-- `request_id`. -/
  spendLedger : Table spendLedgerSchema
  deriving DecidableEq

def Database.empty : Database := ⟨.empty, .empty, .empty, .empty, .empty, .empty, .empty⟩

def quotaMonthly : Part Database (Table quotaMonthlySchema) :=
  ⟨Database.quotaMonthly, fun table db => { db with quotaMonthly := table }, fun _ _ => rfl⟩

def installSpendDaily : Part Database (Table installSpendSchema) :=
  ⟨Database.installSpendDaily, fun table db => { db with installSpendDaily := table },
    fun _ _ => rfl⟩

def installCategoryDaily : Part Database (Table installCategorySchema) :=
  ⟨Database.installCategoryDaily, fun table db => { db with installCategoryDaily := table },
    fun _ _ => rfl⟩

def providerSpendDaily : Part Database (Table providerSpendSchema) :=
  ⟨Database.providerSpendDaily, fun table db => { db with providerSpendDaily := table },
    fun _ _ => rfl⟩

def globalSpendDaily : Part Database (Table globalSpendSchema) :=
  ⟨Database.globalSpendDaily, fun table db => { db with globalSpendDaily := table },
    fun _ _ => rfl⟩

def globalSpendMonthly : Part Database (Table globalSpendSchema) :=
  ⟨Database.globalSpendMonthly, fun table db => { db with globalSpendMonthly := table },
    fun _ _ => rfl⟩

def spendLedger : Part Database (Table spendLedgerSchema) :=
  ⟨Database.spendLedger, fun table db => { db with spendLedger := table }, fun _ _ => rfl⟩

/-! ## Errors and statements -/

/-- What a store operation can report. -/
inductive StoreError where
  | invalidPlan (cause : BillingError)
  | zeroCostPlan
  | invalidReservation
  | amountMismatch
  | negativeSettlement
  | monthlyExhausted
  | sublimitExceeded
  | categoryDailyExceeded (category : String)
  | budgetExceeded
  | monthlyResetBlocked
  /-- `conditionalMiss`: a guarded statement matched no row. -/
  | conditionalMiss (op : String)
  /-- The statement itself was refused by the database. -/
  | statement (op : String) (refusal : Refusal)
  | affectedRows (op : String) (rows : ℕ)
  deriving DecidableEq, Repr

abbrev StoreTx := Tx Database StoreError

section Statements
variable {κ ν : Type} [DecidableEq κ] {schema : Schema κ ν}

/-- `INSERT OR IGNORE`. -/
def upsert (op : String) (part : Part Database (Table schema)) (key : κ) (value : ν) :
    StoreTx Unit := fun db =>
  match (part.get db).insertOrIgnore key value with
  | .error refusal => (.error (.statement op refusal), db)
  | .ok table => (.ok (), part.set table db)

/-- `UPDATE` by primary key, reporting the affected rows. -/
def execCount (op : String) (part : Part Database (Table schema)) (key : κ)
    (condition : ν → Bool) (assign : ν → ν) : StoreTx ℕ := fun db =>
  match (part.get db).updateWhere (Table.at' key condition) assign with
  | .error refusal => (.error (.statement op refusal), db)
  | .ok (table, count) => (.ok count, part.set table db)

/-- `execOne`: exactly one row, or an error that says which statement missed. -/
def execOne (op : String) (part : Part Database (Table schema)) (key : κ)
    (condition : ν → Bool) (assign : ν → ν) : StoreTx Unit := do
  let count ← execCount op part key condition assign
  if count = 0 then Tx.fail (.conditionalMiss op)
  else if count ≠ 1 then Tx.fail (.affectedRows op count)
  else return ()

end Statements

/-- `isConditionalMiss` at a gate: the miss becomes the gate's own denial. -/
def deniedAs (denial : StoreError) : StoreError → StoreError
  | .conditionalMiss _ => denial
  | other => other

/-! ## Reserve -/

def hexDigit (nibble : ℕ) : Char := "0123456789abcdef".toList.getD nibble '0'

/-- `newRequestID` over the eight bytes it draws. -/
def newRequestID (random : List UInt8) : String :=
  "req_" ++ String.ofList (random.flatMap fun byte =>
    [hexDigit (byte.toNat / 16), hexDigit (byte.toNat % 16)])

def validatePlan (plan : Plan) : Except StoreError Unit :=
  match plan.validate with
  | .error cause => .error (.invalidPlan cause)
  | .ok () => if plan.reservedPUSD ≤ 0 then .error .zeroCostPlan else .ok ()

/-- `planCategory`: the per-category daily demand, with `""` for a plan that has
none. A clip counts once, whatever its length. -/
def planCategory (plan : Plan) : String × Int64 :=
  match plan.inputClass with
  | .images => (categoryImage, plan.promptQuote)
  | .characters => (categorySpeech, plan.promptQuote)
  | .videoSeconds => (categoryVideo, 1)
  | .voices => (categoryVoice, plan.promptQuote)
  | _ => ("", 0)

/-- `categoryCap`: zero disables the cap. -/
def categoryCap (category : String) (lim : Limits) : Int64 :=
  if category = categoryImage then lim.imageDailyLimit
  else if category = categorySpeech then lim.speechDailyLimit
  else if category = categoryVideo then lim.videoDailyLimit
  else if category = categoryVoice then lim.voiceDailyLimit
  else 0

/-- The monthly request entitlement. -/
def reserveMonthly (installID : String) (p : Period) (lim : Limits) : StoreTx Unit := do
  upsert "month upsert" quotaMonthly (installID, p.month) 0
  Tx.mapFailure (deniedAs .monthlyExhausted) <|
    execOne "month reserve" quotaMonthly (installID, p.month)
      (fun requests => decide (requests < lim.monthlyQuota.toInt)) (fun requests => requests + 1)

def reserveInstallDay (installID : String) (plan : Plan) (p : Period) : StoreTx Unit := do
  upsert "install-day upsert" installSpendDaily (installID, p.day) 0
  execOne "install spend reserve" installSpendDaily (installID, p.day)
    (fun row => decide (row.spendPUSD ≤ (Int64.maxValue - plan.reservedPUSD).toInt))
    (fun row => { row with spendPUSD := row.spendPUSD + plan.reservedPUSD.toInt })

/-- The optional daily request sublimit; the result is `SublimitApplied`. -/
def reserveSublimit (installID : String) (p : Period) (lim : Limits) : StoreTx Bool :=
  if lim.dailySublimit > 0 then do
    Tx.mapFailure (deniedAs .sublimitExceeded) <|
      execOne "daily sublimit reserve" installSpendDaily (installID, p.day)
        (fun row => decide (row.requests < lim.dailySublimit.toInt))
        (fun row => { row with requests := row.requests + 1 })
    return true
  else return false

/-- The per-category unit ledger; the result is `CategoryApplied` and
`CategoryUnits`. A disabled cap still records what was consumed. -/
def reserveCategory (installID : String) (plan : Plan) (p : Period) (lim : Limits) :
    StoreTx (String × Int64) :=
  let (category, units) := planCategory plan
  if category ≠ "" then do
    upsert "category-day upsert" installCategoryDaily (installID, category, p.day) 0
    let dayCap := categoryCap category lim
    if dayCap > 0 then
      Tx.mapFailure (deniedAs (.categoryDailyExceeded category)) <|
        execOne "category daily reserve" installCategoryDaily (installID, category, p.day)
          (fun held => decide (held + units.toInt ≤ dayCap.toInt)) (fun held => held + units.toInt)
    else
      execOne "category daily record" installCategoryDaily (installID, category, p.day)
        (fun held => decide (held ≤ (Int64.maxValue - units).toInt)) (fun held => held + units.toInt)
    return (category, units)
  else return ("", 0)

def reserveProviderDay (plan : Plan) (p : Period) : StoreTx Unit := do
  upsert "provider-day upsert" providerSpendDaily (plan.provider, p.day) 0
  execOne "provider spend reserve" providerSpendDaily (plan.provider, p.day)
    (fun row => decide (row.spendPUSD ≤ (Int64.maxValue - plan.reservedPUSD).toInt) &&
      decide (row.requests < Int64.maxValue.toInt))
    (fun row => ⟨row.spendPUSD + plan.reservedPUSD.toInt, row.requests + 1⟩)

def reserveGlobalDay (plan : Plan) (p : Period) : StoreTx Unit := do
  upsert "global-day upsert" globalSpendDaily p.day 0
  execOne "global spend reserve" globalSpendDaily p.day
    (fun row => decide (row.spendPUSD ≤ (Int64.maxValue - plan.reservedPUSD).toInt) &&
      decide (row.requests < Int64.maxValue.toInt))
    (fun row => ⟨row.spendPUSD + plan.reservedPUSD.toInt, row.requests + 1⟩)

/-- The operator's shared monthly wallet. Its request counter has no guard of
its own. -/
def reserveGlobalMonth (plan : Plan) (p : Period) (lim : Limits) : StoreTx Unit := do
  upsert "global-month upsert" globalSpendMonthly p.month 0
  Tx.mapFailure (deniedAs .budgetExceeded) <|
    execOne "global month reserve" globalSpendMonthly p.month
      (fun row =>
        decide (row.spendPUSD ≤ (lim.globalMonthlySpendPUSD - plan.reservedPUSD).toInt))
      (fun row => ⟨row.spendPUSD + plan.reservedPUSD.toInt, row.requests + 1⟩)

/-- The ledger row a reservation is recorded as. -/
def openRow (now : ℤ) (r : Reservation) : LedgerRow where
  installID := r.installID
  provider := r.plan.provider
  model := r.plan.model
  rateCardID := r.plan.rateCardID
  periodMonth := r.period.month
  periodDay := r.period.day
  reservedPUSD := r.reservedPUSD.toInt
  chargedPUSD := none
  state := .open
  sublimitApplied := r.sublimitApplied
  category := r.categoryApplied
  categoryUnits := r.categoryUnits.toInt
  createdAt := now
  terminalAt := none

def insertLedger (now : ℤ) (r : Reservation) : StoreTx Unit := fun db =>
  match db.spendLedger.insert r.requestID (openRow now r) with
  | .error refusal => (.error (.statement "spend ledger insert" refusal), db)
  | .ok table => (.ok (), { db with spendLedger := table })

/-- The transaction body of `Reserve`. -/
def reserveBody (requestID : String) (now : ℤ) (installID : String) (plan : Plan) (p : Period)
    (lim : Limits) : StoreTx Reservation := do
  reserveMonthly installID p lim
  reserveInstallDay installID plan p
  let sublimitApplied ← reserveSublimit installID p lim
  let (categoryApplied, categoryUnits) ← reserveCategory installID plan p lim
  reserveProviderDay plan p
  reserveGlobalDay plan p
  reserveGlobalMonth plan p lim
  let r : Reservation := {
    requestID := requestID, installID := installID, period := p, plan := plan,
    reservedPUSD := plan.reservedPUSD, sublimitApplied := sublimitApplied,
    categoryApplied := categoryApplied, categoryUnits := categoryUnits }
  insertLedger now r
  return r

/-- `Reserve`, over the random bytes and the clock reading it takes. -/
def reserve (random : List UInt8) (now : ℤ) (installID : String) (plan : Plan) (p : Period)
    (lim : Limits) : StoreTx Reservation := do
  Tx.ofExcept (validatePlan plan)
  Tx.transaction (reserveBody (newRequestID random) now installID plan p lim)

/-! ## Settle -/

/-- `validateReservation`; `none` is the nil pointer. -/
def validateReservation (r : Option Reservation) : Except StoreError Reservation :=
  match r with
  | none => .error .invalidReservation
  | some r =>
    if r.requestID = "" || r.installID = "" || r.reservedPUSD ≤ 0 then .error .invalidReservation
    else if r.reservedPUSD ≠ r.plan.reservedPUSD then .error .amountMismatch
    else (validatePlan r.plan).map fun _ => r

/-- The `WHERE` clause both terminal operations share: the row is still open and
agrees with the reservation in every frozen field. -/
def stillOpen (r : Reservation) (row : LedgerRow) : Bool :=
  row.state == .open && row.installID == r.installID && row.provider == r.plan.provider &&
    row.model == r.plan.model && row.rateCardID == r.plan.rateCardID &&
    row.periodMonth == r.period.month && row.periodDay == r.period.day &&
    row.reservedPUSD == r.reservedPUSD.toInt && row.sublimitApplied == r.sublimitApplied &&
    row.category == r.categoryApplied && row.categoryUnits == r.categoryUnits.toInt

def settledRow (now : ℤ) (actualPUSD : Int64) (row : LedgerRow) : LedgerRow :=
  { row with state := .settled, chargedPUSD := some actualPUSD.toInt, terminalAt := some now }

/-- One guarded move of a spend column. -/
def moveSpend {κ : Type} [DecidableEq κ] {schema : Schema κ SpendRow} (op : String)
    (part : Part Database (Table schema)) (key : κ) (condition : SpendRow → Bool) (amount : ℤ) :
    StoreTx Unit :=
  execOne op part key condition fun row => { row with spendPUSD := row.spendPUSD + amount }

/-- `adjustSpend`: a positive delta is refunded, a negative one topped up. -/
def adjustSpend (r : Reservation) (delta : Int64) : StoreTx Unit :=
  if delta = 0 then return ()
  else if delta > 0 then do
    let covered : SpendRow → Bool := fun row => decide (delta.toInt ≤ row.spendPUSD)
    moveSpend "install settle refund" installSpendDaily (r.installID, r.period.day) covered (-delta.toInt)
    moveSpend "provider settle refund" providerSpendDaily (r.plan.provider, r.period.day) covered (-delta.toInt)
    moveSpend "global settle refund" globalSpendDaily r.period.day covered (-delta.toInt)
    moveSpend "global month settle refund" globalSpendMonthly r.period.month covered (-delta.toInt)
  else do
    let topUp := -delta
    let ceiling := Int64.maxValue - topUp
    let fits : SpendRow → Bool := fun row => decide (row.spendPUSD ≤ ceiling.toInt)
    moveSpend "install settle top-up" installSpendDaily (r.installID, r.period.day) fits topUp.toInt
    moveSpend "provider settle top-up" providerSpendDaily (r.plan.provider, r.period.day) fits topUp.toInt
    moveSpend "global settle top-up" globalSpendDaily r.period.day fits topUp.toInt
    moveSpend "global month settle top-up" globalSpendMonthly r.period.month fits topUp.toInt

/-- Closing the ledger row: no matching row means another terminal operation
won, and nothing else is touched. -/
def terminate (op : String) (r : Reservation) (assign : LedgerRow → LedgerRow)
    (balances : StoreTx Unit) : StoreTx Unit := do
  let count ← execCount op spendLedger r.requestID (stillOpen r) assign
  if count = 0 then return ()
  else if count ≠ 1 then Tx.fail (.affectedRows op count)
  else balances

/-- `Settle`. -/
def settle (now : ℤ) (r : Option Reservation) (actualPUSD : Int64) : StoreTx Unit := do
  let r ← Tx.ofExcept (validateReservation r)
  if actualPUSD < 0 then Tx.fail .negativeSettlement
  else
    let delta := r.reservedPUSD - actualPUSD
    Tx.transaction (terminate "ledger settle" r (settledRow now actualPUSD) (adjustSpend r delta))

/-! ## Rollback -/

def rolledBackRow (now : ℤ) (row : LedgerRow) : LedgerRow :=
  { row with state := .rolledBack, chargedPUSD := some 0, terminalAt := some now }

/-- One spend row gives back a reservation and, where it was counted, its
request. -/
def refundRow {κ : Type} [DecidableEq κ] {schema : Schema κ SpendRow} (op : String)
    (part : Part Database (Table schema)) (key : κ) (amount : ℤ) : StoreTx Unit :=
  execOne op part key (fun row => decide (amount ≤ row.spendPUSD) && decide (1 ≤ row.requests))
    fun row => ⟨row.spendPUSD - amount, row.requests - 1⟩

/-- The install's day gives back its request only where the sublimit counted
one. -/
def refundInstall (r : Reservation) : StoreTx Unit :=
  if r.sublimitApplied then
    refundRow "install rollback" installSpendDaily (r.installID, r.period.day) r.reservedPUSD.toInt
  else
    execOne "install rollback" installSpendDaily (r.installID, r.period.day)
      (fun row => decide (r.reservedPUSD.toInt ≤ row.spendPUSD))
      fun row => { row with spendPUSD := row.spendPUSD - r.reservedPUSD.toInt }

def refundCategory (r : Reservation) : StoreTx Unit :=
  if r.categoryApplied ≠ "" ∧ r.categoryUnits > 0 then
    execOne "category rollback" installCategoryDaily (r.installID, r.categoryApplied, r.period.day)
      (fun held => decide (r.categoryUnits.toInt ≤ held)) fun held => held - r.categoryUnits.toInt
  else return ()

/-- The balance half of `Rollback`: exactly what the reservation recorded. -/
def refundBalances (r : Reservation) : StoreTx Unit := do
  refundInstall r
  refundCategory r
  refundRow "provider rollback" providerSpendDaily (r.plan.provider, r.period.day) r.reservedPUSD.toInt
  refundRow "global rollback" globalSpendDaily r.period.day r.reservedPUSD.toInt
  refundRow "global month rollback" globalSpendMonthly r.period.month r.reservedPUSD.toInt
  execOne "month rollback" quotaMonthly (r.installID, r.period.month)
    (fun requests => decide (1 ≤ requests)) fun requests => requests - 1

/-- `Rollback`. -/
def rollback (now : ℤ) (r : Option Reservation) : StoreTx Unit := do
  let r ← Tx.ofExcept (validateReservation r)
  Tx.transaction (terminate "ledger rollback" r (rolledBackRow now) (refundBalances r))

/-! ## Orphans and the monthly reset -/

def orphanedRow (now : ℤ) (row : LedgerRow) : LedgerRow :=
  { row with state := .orphaned, chargedPUSD := some row.reservedPUSD, terminalAt := some now }

/-- `reconcileOne`: a still open row keeps its whole reservation. -/
def reconcileOne (now : ℤ) (requestID : String) : StoreTx Bool :=
  Tx.transaction do
    let count ← execCount "reconcile ledger" spendLedger requestID
      (fun row => row.state == .open) (orphanedRow now)
    if count > 1 then Tx.fail (.affectedRows "reconcile" count)
    else return count == 1

/-- The loop of `ReconcileOrphans`: each row is its own transaction, an error
stops the loop. `clock` is the reading each row takes. -/
def reconcileEach (clock : ℕ → ℤ) : List String → ℕ → StoreTx ℕ
  | [], won => return won
  | id :: rest, won => do
    let closed ← reconcileOne (clock rest.length) id
    reconcileEach clock rest (if closed then won + 1 else won)

/-- A `time.Time` that is bound as it is, in the zone it has: `offset` east of UTC. -/
structure ZonedTime where
  instant : ℤ
  offset : ℤ

/-- `Add`, which keeps the zone. -/
def ZonedTime.add (t : ZonedTime) (d : ℤ) : ZonedTime := { t with instant := t.instant + d }

/-- What the driver writes first, the clock on the wall of the zone. -/
def ZonedTime.wall (t : ZonedTime) : ℤ := t.instant + t.offset

/-- `created_at < ?` of two texts. A row's time is written in UTC, the other in its own zone: the
wall clocks decide, and then the zones, of which `+00:00` is the first. -/
def writtenBefore (createdAt : ℤ) (t : ZonedTime) : Bool :=
  decide (createdAt < t.wall) || (decide (createdAt = t.wall) && decide (t.offset ≠ 0))

/-- The aged open rows `ReconcileOrphans` scans for. -/
def agedOpen (cutoff : ZonedTime) (db : Database) : List String :=
  (db.spendLedger.rows.filter fun row =>
    row.2.state == .open && writtenBefore row.2.createdAt cutoff).map Prod.fst

/-- `ReconcileOrphans`. -/
def reconcileOrphans (clock : ℕ → ℤ) (cutoff : ZonedTime) : StoreTx ℕ := fun db =>
  reconcileEach clock (agedOpen cutoff db) 0 db

/-- `ReconcileOrphans` of the service. `time.Now()` is in the zone of the process. -/
def reconcileOrphansOlder (clock : ℕ → ℤ) (older : ℤ) (now : ZonedTime) : StoreTx ℕ :=
  reconcileOrphans clock (now.add (-older))

/-- `OpenReservations`. -/
def openReservations (db : Database) : ℕ :=
  db.spendLedger.rows.countP fun row => row.2.state == .open

/-- `ResetMonthlyRequests`: refused while any reservation is open. -/
def resetMonthlyRequests (p : Period) : StoreTx ℕ :=
  Tx.transaction fun db =>
    if openReservations db ≠ 0 then (.error .monthlyResetBlocked, db)
    else
      match db.quotaMonthly.updateWhere
          (fun key requests => key.2 == p.month && decide (requests > 0)) (fun _ => 0) with
      | .error refusal => (.error (.statement "reset monthly requests" refusal), db)
      | .ok (table, count) => (.ok count, { db with quotaMonthly := table })

/-- `View`: missing lazy rows read as zero. -/
def view (installID : String) (p : Period) (db : Database) : ℤ × ℤ × ℤ :=
  (db.quotaMonthly.read 0 (installID, p.month),
    (db.installSpendDaily.read 0 (installID, p.day)).spendPUSD,
    (db.globalSpendMonthly.read 0 p.month).spendPUSD)

/-! ## Runs -/

/-- One serialized call. Orphan reconciliation enters a run row by row, so that
other calls may come between its rows. -/
inductive Call where
  | reserve (random : List UInt8) (now : ℤ) (installID : String) (plan : Plan) (p : Period)
      (lim : Limits)
  | settle (now : ℤ) (r : Option Reservation) (actualPUSD : Int64)
  | rollback (now : ℤ) (r : Option Reservation)
  | reconcileOne (now : ℤ) (requestID : String)
  | resetMonthlyRequests (p : Period)

/-- What the database is after a call, failed or not. -/
def step (db : Database) : Call → Database
  | .reserve random now installID plan p lim => (reserve random now installID plan p lim db).2
  | .settle now r actualPUSD => (settle now r actualPUSD db).2
  | .rollback now r => (rollback now r db).2
  | .reconcileOne now requestID => (reconcileOne now requestID db).2
  | .resetMonthlyRequests p => (resetMonthlyRequests p db).2

def run (db : Database) (calls : List Call) : Database := runSteps step db calls

end AnselmGateway.QuotaStore
