import AnselmGateway.APIError
import AnselmGateway.Foundation.CivilDate
import AnselmGateway.InstallStore

/-! Registration, `internal/app/install`: one configuration snapshot and one
clock reading are resolved into the gate parameters of the store, and its
outcome is mapped to the wire. -/
namespace AnselmGateway.Install
open Foundation InstallStore

def maxInstallPerIPHour : ℤ := 1000000
def maxInstallGlobalDailyCap : ℤ := 100000000
def maxInstallPerFPDaily : ℤ := 1000000
def maxInstallPerFPCooldownSec : ℤ := 86400

/-- The issuance settings of a loaded configuration, within the bounds every
loader enforces. Zero disables a gate. -/
structure Config where
  installPerIPHour : ℤ
  installGlobalDailyCap : ℤ
  installPerFPDaily : ℤ
  installPerFPCooldownSec : ℤ
  monthlyQuota : ℤ
  perIPHour_bounds : 0 ≤ installPerIPHour ∧ installPerIPHour ≤ maxInstallPerIPHour
  globalDailyCap_bounds :
    0 ≤ installGlobalDailyCap ∧ installGlobalDailyCap ≤ maxInstallGlobalDailyCap
  perFPDaily_bounds : 0 ≤ installPerFPDaily ∧ installPerFPDaily ≤ maxInstallPerFPDaily
  perFPCooldown_bounds :
    0 ≤ installPerFPCooldownSec ∧ installPerFPCooldownSec ≤ maxInstallPerFPCooldownSec

/-- What registration takes from the standard library: `HashFingerprint`, and the
day, the hour and the next month of an instant in the configured time zone. -/
structure Environment where
  hashFingerprint : String → String
  windowDay : ℤ → String
  windowHour : ℤ → String
  nextMonthReset : ℤ → ℤ

/-- `Request`, normalized. -/
structure Request where
  fingerprint : String
  client : String
  deriving DecidableEq

/-- `IssueResultView`. -/
structure IssueResultView where
  installID : String
  monthlyQuota : ℤ
  resetAt : ℤ
  deriving DecidableEq

/-- `fpDailyCapDisabledSentinel`. -/
def fpDailyCapDisabledSentinel : ℤ := 2 ^ 62

/-- The zero `time.Time`. -/
def zeroTime : ℤ := unix (-62135596800)

variable (env : Environment) (cfg : Config)

/-- `globalGate`. -/
def globalGate (now : ℤ) : GlobalGate :=
  if cfg.installGlobalDailyCap ≤ 0 then ⟨false, "", 0⟩
  else ⟨true, env.windowDay now, cfg.installGlobalDailyCap⟩

/-- The cap the fingerprint gate is given: the daily cap, or a ceiling far above
it when that is off. -/
def fpCap : ℤ :=
  if cfg.installPerFPDaily > 0 then cfg.installPerFPDaily else fpDailyCapDisabledSentinel

/-- The cutoff the fingerprint gate is given: the cooldown before now, or a
thousand years after now when that is off. -/
def fpCutoff (now : ℤ) : ℤ :=
  if cfg.installPerFPCooldownSec > 0 then now - cfg.installPerFPCooldownSec * second
  else addYears 1000 now

/-- `fpGate`. -/
def fpGate (fp : String) (now : ℤ) : FPGate :=
  if (cfg.installPerFPDaily ≤ 0 ∧ cfg.installPerFPCooldownSec ≤ 0) ∨ fp = "" then
    ⟨false, "", "", 0, zeroTime⟩
  else ⟨true, env.hashFingerprint fp, env.windowDay now, fpCap cfg, fpCutoff cfg now⟩

/-- One registration call, with the ids `idgen` would draw. -/
structure Call where
  req : Request
  publicKey : Bytes
  thumbprint : String
  ipKey : String
  now : ℤ
  installID : String
  regenerated : String

/-- The parameters `Issue` hands to the store. -/
def issueParams (call : Call) : IssueParams where
  installID := call.installID
  publicKey := call.publicKey
  thumbprint := call.thumbprint
  fingerprint := call.req.fingerprint
  client := call.req.client
  now := call.now
  ipGate := ⟨decide (cfg.installPerIPHour > 0), call.ipKey, env.windowHour call.now,
    cfg.installPerIPHour⟩
  globalGate := globalGate env cfg call.now
  fpGate := fpGate env cfg call.req.fingerprint call.now

/-- The store's answer to a call. -/
def register (call : Call) (db : Database) : Except Refusal IssueResult × Database :=
  issue call.regenerated (issueParams env cfg call) db

/-- `gateError`. -/
def gateError : Gate → APIError
  | .ip => .installRateLimited
  | .global => .installCapReached
  | .fp => .installFPLimited
  | .none => .internal

/-- `Issue`: the registration view, or the tripped gate and its wire error. -/
def issueView (call : Call) (db : Database) :
    Except (Gate × APIError) IssueResultView × Database :=
  match register env cfg call db with
  | (.error _, after) => (.error (.none, .internal), after)
  | (.ok result, after) =>
    if result.admitted then
      (.ok ⟨result.installID, cfg.monthlyQuota, env.nextMonthReset call.now⟩, after)
    else (.error (result.gate, gateError result.gate), after)

end AnselmGateway.Install
