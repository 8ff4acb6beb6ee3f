import AnselmGateway.APIError
import AnselmGateway.InstallStore
import AnselmGateway.QuotaStore

/-! The skeleton of a paid capability, `internal/app/genrun`: reserve, call the
provider, close the books. The close-out runs under the context the caller came
with, so every step of its transaction can find that context done. -/
namespace AnselmGateway.Genrun
open Foundation Billing Quota QuotaStore

/-! ## The request context -/

/-- The points of a run at which the context is handed on, in order. -/
inductive Moment where
  | reserve
  | call
  | begin
  | statements
  | commit
  deriving DecidableEq, Repr

def Moment.index : Moment → ℕ
  | .reserve => 0
  | .call => 1
  | .begin => 2
  | .statements => 3
  | .commit => 4

/-- `context.Context`: where the run finds it done. Once done, it stays done. -/
structure Context where
  done : Moment → Bool
  stays : ∀ earlier later : Moment, earlier.index ≤ later.index → done earlier = true →
    done later = true

/-- A context the client cancels just before one point of the run. -/
def Context.canceledBefore (moment : Moment) : Context where
  done other := decide (moment.index ≤ other.index)
  stays _ _ later done := decide_eq_true ((of_decide_eq_true done).trans later)

/-- A context nobody cancels. -/
def Context.background : Context := ⟨fun _ => false, fun _ _ _ done => done⟩

/-! ## Transactions under a context -/

/-- Why a close-out did not happen. -/
inductive CloseError where
  | store (failure : StoreError)
  | context (moment : Moment)
  deriving DecidableEq

/-- `orm.DB.Transaction` under a context: it begins, runs its statements and
commits, and a step the database layer fails leaves nothing behind. -/
def transaction (fails : Moment → Bool) (body : StoreTx Unit) :
    Tx Database CloseError Unit := fun db =>
  if fails .begin then (.error (.context .begin), db)
  else if fails .statements then (.error (.context .statements), db)
  else match body db with
    | (.error failure, after) => (.error (.store failure), after)
    | (.ok (), after) =>
      if fails .commit then (.error (.context .commit), db) else (.ok (), after)

/-! ## Runner -/

/-- `Metrics`, as counters. -/
structure Metrics where
  settleFailures : ℕ
  rollbackFailures : ℕ
  deriving DecidableEq

/-- `Runner.Authorize`, over what `LookupInstall` finds, `none` where it fails, and
the verdict of the rate limiter. -/
def authorize (installID : String) (lookup : Option (Option (String × InstallStore.Status)))
    (allowed : Bool) : Except APIError String :=
  if installID = "" then .error .invalidInstall
  else match lookup with
    | none => .error .internal
    | some none => .error .invalidInstall
    | some (some (got, status)) =>
      if got = "" then .error .invalidInstall
      else if status = .banned then .error .accountBanned
      else if !allowed then .error .rateLimited
      else .ok got

/-- What a run works on. -/
structure State where
  db : Database
  metrics : Metrics
  deriving DecidableEq

/-- `Runner.Settle`, at one clock reading of the store. -/
def settle (fails : Moment → Bool) (now : ℤ) (res : Reservation) (actualPUSD : Int64) (s : State) :
    State :=
  match transaction fails (QuotaStore.settle now (some res) actualPUSD) s.db with
  | (.ok (), db) => { s with db := db }
  | (.error _, db) =>
    { db := db, metrics := { s.metrics with settleFailures := s.metrics.settleFailures + 1 } }

/-- `Runner.Rollback`. -/
def rollback (fails : Moment → Bool) (now : ℤ) (res : Reservation) (s : State) : State :=
  match transaction fails (QuotaStore.rollback now (some res)) s.db with
  | (.ok (), db) => { s with db := db }
  | (.error _, db) =>
    { db := db, metrics := { s.metrics with rollbackFailures := s.metrics.rollbackFailures + 1 } }

/-- `mapReserveErr`, and what `Runner.Reserve` makes of an error that is no wire
error. -/
def reserveErr : StoreError → APIError
  | .monthlyExhausted => .quotaExhausted
  | .sublimitExceeded => .rateLimited
  | .budgetExceeded => .budgetExhausted
  | .categoryDailyExceeded category =>
    if category = categoryImage then .imageQuotaExhausted
    else if category = categoryVideo then .videoQuotaExhausted
    else if category = categorySpeech then .ttsQuotaExhausted
    else if category = categoryVoice then .voiceQuotaExhausted
    else .internal
  | _ => .internal

/-! ## Do -/

/-- `Charge`. -/
structure Charge where
  plan : Plan
  inputClass : InputClass
  units : Int64

/-- What the provider half answers: a value, or an error that may be a wire error
of its own, with whether the call was provably not billed. -/
inductive Answer (α : Type) where
  | value (out : α)
  | failed (unbilled : Bool) (wire : Option APIError)

/-- What a run reads from outside: the store's random bytes and clock readings,
and the guardrails of the moment. -/
structure Inputs where
  random : List UInt8
  reservedAt : ℤ
  closedAt : ℤ
  period : Period
  limits : Limits

/-- What a successful call is settled at: a frozen card that no longer prices it
cannot charge less than was reserved. -/
def Charge.cost (c : Charge) (res : Reservation) : Int64 :=
  match res.plan.unitCost c.inputClass c.units with
  | .ok cost => cost
  | .error _ => res.reservedPUSD

/-- The close-out of `Do`. -/
def closeOut {α : Type} (fails : Moment → Bool) (closedAt : ℤ) (c : Charge) (res : Reservation) :
    Answer α → State → State
  | .failed true _, s => rollback fails closedAt res s
  | .failed false _, s => settle fails closedAt res res.reservedPUSD s
  | .value _, s => settle fails closedAt res (c.cost res) s

/-- What `Do` hands back for the provider's answer. -/
def reply {α : Type} : Answer α → Except APIError α
  | .value out => .ok out
  | .failed _ (some wire) => .error wire
  | .failed _ none => .error .upstreamError

/-- `Do`. While the provider works, other calls of the store go on. -/
def run {α : Type} (fails : Moment → Bool) (inputs : Inputs) (installID : String) (c : Charge)
    (answer : Answer α) (meanwhile : List Call) (s : State) : Except APIError α × State :=
  if fails .reserve then (.error .internal, s)
  else match reserve inputs.random inputs.reservedAt installID c.plan inputs.period inputs.limits s.db with
  | (.error failure, db) => (.error (reserveErr failure), { s with db := db })
  | (.ok res, db) =>
    let s := { s with db := QuotaStore.run db meanwhile }
    (reply answer, closeOut fails inputs.closedAt c res answer s)

end AnselmGateway.Genrun
