import Mathlib.Data.List.Basic
import AnselmGateway.Foundation.Clock

/-! The replay-once set of `internal/pkg/noncecache`: a recency list of entries
under a map of its keys, bounded and with a lifetime for each entry. It is
generic in what is consumed once. -/
namespace AnselmGateway.NonceCache
open Foundation

/-- `DefaultMax`. -/
def defaultMax : ℕ := 65536

/-- `entry`. -/
structure Entry (κ : Type) where
  challenge : κ
  expireAt : ℤ
  deriving DecidableEq

/-- `Cache`. The recency list runs from its back to its front. The map sends a
challenge to the list node that carries it, so its keys are all it adds. -/
structure Cache (κ : Type) where
  ll : List (Entry κ)
  entries : List κ
  max : ℕ
  ttl : ℤ
  failClosed : Bool
  deriving DecidableEq

variable {κ : Type}

/-- `NewWithMax`: a non-positive ceiling falls back to the default. -/
def newWithMax (ttl : ℤ) (max : ℤ) : Cache κ where
  ll := []
  entries := []
  max := if max ≤ 0 then defaultMax else max.toNat
  ttl := ttl
  failClosed := false

/-- `New`. -/
def new (ttl : ℤ) : Cache κ := newWithMax ttl defaultMax

/-- `NewFailClosed`. -/
def newFailClosed (ttl : ℤ) (max : ℤ) : Cache κ :=
  { newWithMax ttl max with failClosed := true }

variable [DecidableEq κ]

/-- `delete` on the map. -/
def deleteKey (entries : List κ) (challenge : κ) : List κ :=
  entries.filter fun key => key ≠ challenge

/-- `MoveToFront` of the node of this challenge, which then carries `e`. -/
def Cache.moveToFront (c : Cache κ) (e : Entry κ) : Cache κ :=
  { c with ll := (c.ll.filter fun other => other.challenge ≠ e.challenge) ++ [e] }

/-- The loop of `evictExpiredLocked`: from the back, up to the first live node. -/
def evictExpiredFrom (now : ℤ) : List (Entry κ) → List κ → List (Entry κ) × List κ
  | [], entries => ([], entries)
  | back :: rest, entries =>
    if now < back.expireAt then (back :: rest, entries)
    else evictExpiredFrom now rest (deleteKey entries back.challenge)

/-- `evictExpiredLocked`. -/
def Cache.evictExpired (now : ℤ) (c : Cache κ) : Cache κ :=
  let (ll, entries) := evictExpiredFrom now c.ll c.entries
  { c with ll := ll, entries := entries }

/-- The loop of `evictAllExpiredLocked`: every expired node, live ones skipped. -/
def evictAllExpiredFrom (now : ℤ) : List (Entry κ) → List κ → List (Entry κ) × List κ
  | [], entries => ([], entries)
  | el :: rest, entries =>
    if now < el.expireAt then
      let (kept, left) := evictAllExpiredFrom now rest entries
      (el :: kept, left)
    else evictAllExpiredFrom now rest (deleteKey entries el.challenge)

/-- `evictAllExpiredLocked`. -/
def Cache.evictAllExpired (now : ℤ) (c : Cache κ) : Cache κ :=
  let (ll, entries) := evictAllExpiredFrom now c.ll c.entries
  { c with ll := ll, entries := entries }

/-- The loop of `evictOverflowLocked`: live nodes too, until the map fits. -/
def evictOverflowFrom (max : ℕ) : List (Entry κ) → List κ → List (Entry κ) × List κ
  | [], entries => ([], entries)
  | back :: rest, entries =>
    if entries.length > max then evictOverflowFrom max rest (deleteKey entries back.challenge)
    else (back :: rest, entries)

/-- `evictOverflowLocked`. -/
def Cache.evictOverflow (c : Cache κ) : Cache κ :=
  let (ll, entries) := evictOverflowFrom c.max c.ll c.entries
  { c with ll := ll, entries := entries }

/-- `PushFront` under a new map key. -/
def Cache.pushFront (c : Cache κ) (e : Entry κ) : Cache κ :=
  { c with ll := c.ll ++ [e], entries := e.challenge :: c.entries }

/-- The rest of `UseOnce` for a challenge the map does not hold. -/
def Cache.insertNew (now : ℤ) (challenge : κ) (c : Cache κ) : Bool × Cache κ :=
  let c := c.evictExpired now
  let saturated := c.failClosed && decide (c.entries.length ≥ c.max)
  let c := if saturated then c.evictAllExpired now else c
  if saturated && decide (c.entries.length ≥ c.max) then (false, c)
  else
    let c := c.pushFront ⟨challenge, now + c.ttl⟩
    (true, if c.failClosed then c else c.evictOverflow)

/-- `UseOnce` at one clock reading. A mapped challenge always has its node, so
the branch without one is never taken. -/
def Cache.useOnce (now : ℤ) (challenge : κ) (c : Cache κ) : Bool × Cache κ :=
  if challenge ∈ c.entries then
    match c.ll.find? fun e => e.challenge = challenge with
    | none => (false, c)
    | some e =>
      if now < e.expireAt then (false, c.moveToFront e)
      else (true, c.moveToFront { e with expireAt := now + c.ttl })
  else c.insertNew now challenge

end AnselmGateway.NonceCache
