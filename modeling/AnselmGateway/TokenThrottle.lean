import AnselmGateway.Foundation.Clock
import AnselmGateway.Foundation.Dict
import AnselmGateway.HotConfiguration

/-! The token-anomaly throttle of `internal/bootstrap`: a request count for each install and
clock minute, and the stamp of its latest throttle. An instant is a count of nanoseconds
since the Unix epoch, which no system clock is before. -/
namespace AnselmGateway.TokenThrottle
open Foundation RuntimeConfig

/-- The zero `time.Time`. -/
def zeroTime : ℤ := unix (-62135596800)

/-- `rpmWindow`. -/
structure RpmWindow where
  minute : ℤ
  n : ℕ
  until_ : ℤ
  deriving DecidableEq, Repr

/-- `now.Unix() / 60`. -/
def unixMinute (now : ℕ) : ℤ := now / second / 60

variable {κ : Type}

/-- `counts`. -/
abbrev Counts (κ : Type) := Dict κ RpmWindow

/-- `pruneLocked`: windows that are neither of late nor still throttled. -/
def pruneLocked (now : ℕ) (counts : Counts κ) : Counts κ :=
  if counts.entries.length < 8192 then counts
  else Dict.deleteWhere counts fun _ w =>
    decide (w.minute < unixMinute now - 5) && (decide (w.until_ = zeroTime) || decide (w.until_ < now))

/-- The tracker's two entry points, each with the clock it reads. -/
inductive Call (κ : Type) where
  | observe (installID : κ) (now : ℕ)
  | tokensThrottledNow (now : ℕ)
  deriving DecidableEq, Repr

def Call.now : Call κ → ℕ
  | .observe _ now => now
  | .tokensThrottledNow now => now

/-- What a call returns; `Observe` with the limit it sets on a key, and until when. -/
inductive Output (κ : Type) where
  | observed (anomaly : Bool) (setKeyLimit : Option (κ × ℤ × ℤ))
  | throttled (n : ℕ)
  deriving DecidableEq, Repr

/-- What `Observe` returns. -/
def Output.anomaly : Output κ → Bool
  | .observed anomaly _ => anomaly
  | .throttled _ => false

/-- The counting in `Observe`. -/
def RpmWindow.meter (w : RpmWindow) (minute : ℤ) : RpmWindow :=
  let w := if w.minute ≠ minute then { w with minute := minute, n := 0 } else w
  { w with n := w.n + 1 }

/-- The bucket limit of a throttled install. -/
def tightened (cfg : Config) : ℤ :=
  let factor := if cfg.tokenThrottleFactor < 1 then 1 else cfg.tokenThrottleFactor
  let tightened := cfg.ratePerMin.tdiv factor
  if tightened < 1 then 1 else tightened

/-- When a throttle set now expires; the product is a machine word. -/
def throttledUntil (cfg : Config) (now : ℕ) : ℤ :=
  now + (cfg.tokenThrottleCooldownSec * second).bmod (2 ^ 64)

/-- A throttle that is set, and has not expired. -/
def RpmWindow.throttledAt (w : RpmWindow) (now : ℕ) : Bool :=
  decide (w.until_ ≠ zeroTime) && decide (now < w.until_)

/-- `TokensThrottledNow`. -/
def tokensThrottledNow (counts : Counts κ) (now : ℕ) : ℕ :=
  Dict.countWhere counts fun _ w => w.throttledAt now

variable [DecidableEq κ]

/-- `Observe`, of a tracker that sweeps as `prune` does. The source counts through a pointer to
the window it finds or makes; a sweep takes no window of this minute
(`ThrottlePruning.lookup_pruneLocked_recent`), so that is to write it back. -/
def observe (cfg : Config) (prune : ℕ → Counts κ → Counts κ) (counts : Counts κ) (installID : κ) (now : ℕ) :
    Output κ × Counts κ :=
  let rpm := cfg.tokenAnomalyRPM
  if rpm ≤ 0 then (.observed false none, counts)
  else
    let minute := unixMinute now
    let fresh : RpmWindow := { minute := minute, n := 0, until_ := zeroTime }
    let counts' := match counts.lookup installID with
      | some _ => counts
      | none => prune now (counts.insert installID fresh)
    let w := ((counts.lookup installID).getD fresh).meter minute
    if w.n < rpm then (.observed false none, counts'.insert installID w)
    else
      let until_ := throttledUntil cfg now
      (.observed true (some (installID, tightened cfg, until_)),
        counts'.insert installID { w with until_ := until_ })

/-- One call. -/
def step (cfg : Config) (prune : ℕ → Counts κ → Counts κ) (counts : Counts κ) :
    Call κ → Output κ × Counts κ
  | .observe installID now => observe cfg prune counts installID now
  | .tokensThrottledNow now => (.throttled (tokensThrottledNow counts now), counts)

/-- What the calls of a run return, in order. -/
def outputs (cfg : Config) (prune : ℕ → Counts κ → Counts κ) : Counts κ → List (Call κ) → List (Output κ)
  | _, [] => []
  | counts, call :: rest => (step cfg prune counts call).1 :: outputs cfg prune (step cfg prune counts call).2 rest

end AnselmGateway.TokenThrottle
