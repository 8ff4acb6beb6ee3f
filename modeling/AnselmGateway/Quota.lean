import AnselmGateway.Billing
import AnselmGateway.Foundation.Clock

/-! The accounting values of `internal/domain/quota`: the period a request is
booked under, the guardrail snapshot one reservation sees, and the reservation
itself. -/
namespace AnselmGateway.Quota
open Foundation Billing

def categoryImage : String := "image"
def categorySpeech : String := "speech"
def categoryVideo : String := "video"
def categoryVoice : String := "voice"

/-- The month and day buckets, taken once when a request enters. -/
structure Period where
  month : String
  day : String
  deriving DecidableEq

/-- What a successful reservation hands to settlement and rollback. -/
structure Reservation where
  requestID : String
  installID : String
  period : Period
  plan : Plan
  reservedPUSD : Int64
  sublimitApplied : Bool
  categoryApplied : String
  categoryUnits : Int64
  deriving DecidableEq

/-- One snapshot of the live guardrails. The wallet is never negative:
`config.ValidateSemantics` refuses a configuration whose monthly spend budget
is not positive, and every snapshot is read from a validated configuration, as
`PublishedCapabilities.live_wallet` shows of every one that is live. -/
structure Limits where
  monthlyQuota : Int64
  globalMonthlySpendPUSD : Int64
  dailySublimit : Int64
  imageDailyLimit : Int64
  speechDailyLimit : Int64
  videoDailyLimit : Int64
  voiceDailyLimit : Int64
  wallet_nonneg : 0 ≤ globalMonthlySpendPUSD.toInt

end AnselmGateway.Quota
