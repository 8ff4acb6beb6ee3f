import Mathlib.Data.Rat.Init
import Mathlib.Algebra.Order.Ring.Unbundled.Rat
import AnselmGateway.Foundation.Clock
import AnselmGateway.Foundation.Int64
import AnselmGateway.Foundation.Recency
import AnselmGateway.Foundation.Run
import AnselmGateway.Install

/-! The minute buckets of `internal/infra/ratelimit`: one token bucket for each key in a
bounded recency list, and an override that slows one bucket in place. Tokens are exact
rationals, and the limiter is generic in its keys. -/
namespace AnselmGateway.RateLimit
open Foundation

/-- `defaultMax`. -/
def defaultMax : ℕ := 16384

/-- `entry`. -/
structure Entry (κ : Type) where
  key : κ
  tokens : ℚ
  last : ℤ
  ovrLimit : ℤ
  ovrUntil : ℤ
  deriving DecidableEq

/-- `RateLimiter`. The recency list runs from its back to its front, and the map is its
keys. -/
structure RateLimiter (κ : Type) where
  ll : List (Entry κ)
  buckets : List κ
  max : ℕ
  perMin : ℤ
  deriving DecidableEq

variable {κ : Type}

/-- `time.Time.Sub` saturates at the largest and smallest duration. -/
def sub (later earlier : ℤ) : ℤ := max (-maxInt64 - 1) (min maxInt64 (later - earlier))

/-- `Duration.Seconds`. -/
def seconds (duration : ℤ) : ℚ := (duration : ℚ) / 1000000000

/-- `effLimit`. -/
def Entry.effLimit (e : Entry κ) (perMin now : ℤ) : ℤ :=
  if e.ovrLimit > 0 ∧ now < e.ovrUntil ∧ e.ovrLimit < perMin then e.ovrLimit else perMin

/-- The linear refill in `Allow`, clamped to the cap in force. -/
def Entry.refill (e : Entry κ) (perMin now : ℤ) : Entry κ :=
  let limit := e.effLimit perMin now
  let elapsed := seconds (sub now e.last)
  let tokens := e.tokens + elapsed * ((limit : ℚ) / 60)
  { e with tokens := if tokens > limit then limit else tokens, last := now }

/-- `NewWithMax`. -/
def newWithMax (perMin max : ℤ) : RateLimiter κ where
  ll := []
  buckets := []
  max := if max ≤ 0 then defaultMax else max.toNat
  perMin := perMin

/-- `New`. -/
def new (perMin : ℤ) : RateLimiter κ := newWithMax perMin defaultMax

variable [DecidableEq κ]

/-- `evictLocked`. -/
def RateLimiter.evictLocked (rl : RateLimiter κ) : RateLimiter κ :=
  let (ll, buckets) := Recency.trim Entry.key rl.max rl.ll rl.buckets
  { rl with ll := ll, buckets := buckets }

/-- `PushFront` under a new map key, and the eviction after it. -/
def RateLimiter.pushFront (rl : RateLimiter κ) (e : Entry κ) : RateLimiter κ :=
  { rl with ll := rl.ll ++ [e], buckets := e.key :: rl.buckets }.evictLocked

/-- `MoveToFront` of the node of this key, which then carries `e`. -/
def RateLimiter.moveToFront (rl : RateLimiter κ) (e : Entry κ) : RateLimiter κ :=
  { rl with ll := Recency.toFront Entry.key rl.ll e }

/-- What is written through the entry's pointer: nothing, once it is off the list. -/
def RateLimiter.write (rl : RateLimiter κ) (e : Entry κ) : RateLimiter κ :=
  { rl with ll := Recency.replace Entry.key rl.ll e }

/-- `touchLocked`. A mapped key always has its node, so the branch without one is never
taken. -/
def RateLimiter.touchLocked (rl : RateLimiter κ) (key : κ) (now : ℤ) : Entry κ × RateLimiter κ :=
  let e : Entry κ := ⟨key, rl.perMin, now, 0, Install.zeroTime⟩
  if key ∈ rl.buckets then
    match Recency.lookup Entry.key rl.ll key with
    | some e => (e, rl.moveToFront e)
    | none => (e, rl)
  else (e, rl.pushFront e)

/-- `Allow` at one clock reading. -/
def RateLimiter.allow (rl : RateLimiter κ) (now : ℤ) (key : κ) : Bool × RateLimiter κ :=
  if rl.perMin ≤ 0 then (true, rl)
  else
    let (e, rl) := rl.touchLocked key now
    let e := e.refill rl.perMin now
    if e.tokens < 1 then (false, rl.write e)
    else (true, rl.write { e with tokens := e.tokens - 1 })

/-- `SetKeyLimit` at one clock reading. -/
def RateLimiter.setKeyLimit (rl : RateLimiter κ) (now : ℤ) (key : κ) (limit till : ℤ) : RateLimiter κ :=
  if rl.perMin ≤ 0 then rl
  else if key ∈ rl.buckets then
    match Recency.lookup Entry.key rl.ll key with
    | some e =>
      let tokens := if limit > 0 ∧ limit < rl.perMin ∧ e.tokens > limit then (limit : ℚ) else e.tokens
      rl.moveToFront { e with tokens := tokens, ovrLimit := limit, ovrUntil := till }
    | none => rl
  else
    let start : ℚ := if limit > rl.perMin then rl.perMin else limit
    rl.pushFront ⟨key, start, now, limit, till⟩

/-! ## Histories -/

/-- A call of the limiter, with its clock reading. -/
inductive Call (κ : Type) where
  | allow (now : ℤ) (key : κ)
  | setKeyLimit (now : ℤ) (key : κ) (limit till : ℤ)

def Call.now : Call κ → ℤ
  | allow now _ => now
  | setKeyLimit now _ _ _ => now

def Call.key : Call κ → κ
  | allow _ key => key
  | setKeyLimit _ key _ _ => key

def Call.isAllow : Call κ → Bool
  | allow _ _ => true
  | setKeyLimit _ _ _ _ => false

/-- An override names no negative limit. -/
def Call.Nonneg : Call κ → Prop
  | allow _ _ => True
  | setKeyLimit _ _ limit _ => 0 ≤ limit

/-- The key a call admits, and the limiter after it. -/
def RateLimiter.answer (rl : RateLimiter κ) : Call κ → Option κ × RateLimiter κ
  | .allow now key =>
    let (admitted, rl) := rl.allow now key
    (if admitted then some key else none, rl)
  | .setKeyLimit now key limit till => (none, rl.setKeyLimit now key limit till)

/-- The limiter after a list of calls. -/
def after (rl : RateLimiter κ) (calls : List (Call κ)) : RateLimiter κ :=
  runSteps (fun rl call => (rl.answer call).2) rl calls

/-- The keys admitted along a list of calls, in order. -/
def admissions (rl : RateLimiter κ) (calls : List (Call κ)) : List κ :=
  accepted RateLimiter.answer rl calls

end AnselmGateway.RateLimit
