import Mathlib.Data.List.Infix
import AnselmGateway.APIError
import AnselmGateway.Billing
import AnselmGateway.Foundation.Bytes
import AnselmGateway.Foundation.Clock

/-! The resilient upstream client of `internal/infra/upstream`: a key pool with
health gates, one classification of every connect-to-first-byte outcome, and the
bounded failover loop inside the process breaker. The breaker library, the
network and the timers answer from outside. -/
namespace AnselmGateway.Upstream
open Foundation Billing

/-! ## Fault classes -/

/-- `faultClass`; `classOK` is the zero value. -/
inductive FaultClass where
  | ok
  | clientCancel
  | busy
  | keyAuth
  | keyOpen
  | timeout
  | upstream
  | upstreamFinal
  | upstreamRefused
  | upstreamRejected
  deriving DecidableEq, Repr

/-- `apierr.Rejected*`, the reasons `details.reason` may carry. -/
inductive Rejected where
  | contextLength
  | maxTokens
  | invalid
  deriving DecidableEq, Repr

def Rejected.text : Rejected → String
  | .contextLength => "context_length"
  | .maxTokens => "max_tokens"
  | .invalid => "invalid_request"

/-- `outcome`: the decisions a classified attempt leads to. -/
structure Outcome where
  faultClass : FaultClass
  apiErr : Option APIError := none
  reason : Option Rejected := none
  retryable : Bool := false
  breakerFlt : Bool := false
  exposure : ChargeExposure := .chargePossible
  deriving DecidableEq

/-- `resolveRejected`. -/
def resolveRejected (reason : Rejected) : Outcome where
  faultClass := .upstreamRejected
  apiErr := some .upstreamRejected
  reason := some reason
  exposure := .definitelyUnbilled

/-- `resolve`. -/
def resolve : FaultClass → Outcome
  | .clientCancel => { faultClass := .clientCancel, apiErr := some .clientCanceled }
  | .busy =>
    { faultClass := .busy, apiErr := some .upstreamBusy, exposure := .definitelyUnbilled }
  | .keyAuth =>
    { faultClass := .keyAuth, apiErr := some .upstreamError, retryable := true
      exposure := .definitelyUnbilled }
  | .keyOpen =>
    { faultClass := .keyOpen, apiErr := some .upstreamBusy, retryable := true
      exposure := .definitelyUnbilled }
  | .timeout => { faultClass := .timeout, apiErr := some .upstreamTimeout, breakerFlt := true }
  | .upstream => { faultClass := .upstream, apiErr := some .upstreamError, breakerFlt := true }
  | .upstreamFinal =>
    { faultClass := .upstreamFinal, apiErr := some .upstreamError, breakerFlt := true }
  | .upstreamRefused =>
    { faultClass := .upstreamRefused, apiErr := some .upstreamError, breakerFlt := true
      exposure := .definitelyUnbilled }
  | .upstreamRejected => resolveRejected .invalid
  | .ok => { faultClass := .ok }

/-- What `errors.Is` and `errors.As` find in an error of the network stack. -/
structure NetError where
  canceled : Bool
  deadlineExceeded : Bool
  timeout : Bool
  deriving DecidableEq

/-- Why the transport brought back no response. -/
inductive SendError where
  | allKeysGated
  | noUsableAPIKey
  | keyOpen
  | network (error : NetError)
  deriving DecidableEq

/-- `classifyPeekErr`, and the second half of `classifyConnectErr`. -/
def classifyPeekErr (err : NetError) (parentDone timedOut : Bool) : FaultClass :=
  if !timedOut && parentDone && err.canceled then .clientCancel
  else if timedOut || err.deadlineExceeded || err.timeout then .timeout
  else .upstream

/-- `classifyConnectErr`. -/
def classifyConnectErr (err : SendError) (parentDone timedOut : Bool) : FaultClass :=
  match err with
  | .allKeysGated | .noUsableAPIKey => .busy
  | .keyOpen => .keyOpen
  | .network err => classifyPeekErr err parentDone timedOut

/-- `classifyStatus`. -/
def classifyStatus (code : ℤ) : FaultClass :=
  if code = 429 then .busy
  else if code = 401 ∨ code = 403 then .keyAuth
  else if code = 400 ∨ code = 413 ∨ code = 422 then .upstreamRejected
  else if code = 504 then .timeout
  else if code = 502 ∨ code = 503 then .upstream
  else if code ≥ 300 ∧ code < 500 then .upstreamRefused
  else .upstreamFinal

/-! ## Responses -/

structure Response where
  statusCode : ℤ
  retryAfter : String
  body : Bytes

/-- What the client takes from the standard library: reading an HTTP date, case
folding, and the messages found by the two `json.Unmarshal` calls, `none` where
they fail. -/
structure Environment where
  parseTime : String → Option ℤ
  toLower : String → String
  errorMessage : Bytes → Option String
  errorMessages : Bytes → Option (List String)

/-- `strconv.Atoi`. -/
def atoi (text : String) : Option ℤ :=
  let (sign, digits) : ℤ × List Char := match text.toList with
    | '-' :: rest => (-1, rest)
    | '+' :: rest => (1, rest)
    | digits => (1, digits)
  if digits = [] ∨ ¬digits.all Char.isDigit then none
  else
    let value := sign * (digits.foldl (fun value digit => value * 10 + (digit.toNat - 48)) 0 : ℕ)
    if -2 ^ 63 ≤ value ∧ value < 2 ^ 63 then some value else none

variable (env : Environment)

/-- `parseRetryAfter`. -/
def parseRetryAfter (v : String) (now : ℤ) : ℤ :=
  if v = "" then 0
  else match atoi v with
    | some secs => if secs < 0 then 0 else (Int64.ofInt (secs * second)).toInt
    | none => match env.parseTime v with
      | some t => if 0 < t - now then t - now else 0
      | none => 0

/-- `strings.Contains`. -/
def contains (text part : String) : Bool := decide (part.toList <:+: text.toList)

/-- `rejectionReason`, without the text for the operator's journal. -/
def rejectionReason (body : Bytes) : Rejected :=
  let raw := body.take (4 * 1024)
  let message := match env.errorMessage raw with
    | some "" | none => match env.errorMessages raw with
      | some (first :: _) => first
      | _ => ""
    | some message => message
  let msg := env.toLower message
  if contains msg "context length" || contains msg "context window" ||
      contains msg "input too large" || contains msg "too many input tokens" ||
      contains msg "maximum input" then .contextLength
  else if contains msg "max_tokens" then .maxTokens
  else .invalid

/-! ## The key pool -/

structure KeyState where
  id : ℕ
  cooldownUntil : ℤ
  deriving DecidableEq

/-- `redactingTransport`: the keys and the cursor. -/
structure Transport where
  keys : List KeyState
  rr : UInt64
  deriving DecidableEq

/-- `setCooldown`, on the key of one id. -/
def Transport.setCooldown (t : Transport) (id : ℕ) (until_ : ℤ) : Transport :=
  { t with keys := t.keys.map fun key =>
      if key.id = id ∧ key.cooldownUntil < until_ then { key with cooldownUntil := until_ }
      else key }

/-- `pickKey`: the first key from the cursor on that is neither cooling down nor
behind an open breaker. -/
def Transport.pickKey (t : Transport) (now : ℤ) (isOpen : ℕ → Bool) :
    Option KeyState × Transport :=
  let n := t.keys.length
  if n = 0 then (none, t)
  else
    let ordered := (List.range n).filterMap fun i =>
      t.keys[((t.rr + UInt64.ofNat i) % UInt64.ofNat n).toNat]?
    (ordered.find? fun key => !(decide (now < key.cooldownUntil) || isOpen key.id),
      { t with rr := t.rr + 1 })

/-- `accountLevelFault`, for what it does to the key. -/
def Transport.accountLevelFault (t : Transport) (id : ℕ) (r : Response) (now : ℤ) : Transport :=
  if r.statusCode = 401 ∨ r.statusCode = 403 then t.setCooldown id (now + 10 * minute)
  else if r.statusCode = 429 then
    let d := parseRetryAfter env r.retryAfter now
    if d > 5 * second then t.setCooldown id (now + d) else t
  else t

/-- What the outside answers to one `RoundTrip`: the clock, the key breakers that
are open, whether the picked one refuses to run, and the network. -/
structure Leg where
  now : ℤ
  isOpen : ℕ → Bool
  refuses : Bool
  base : Except NetError Response

/-- `RoundTrip`. -/
def Transport.roundTrip (t : Transport) (leg : Leg) : Except SendError Response × Transport :=
  if t.keys = [] then (.error .noUsableAPIKey, t)
  else match t.pickKey leg.now leg.isOpen with
    | (none, t) => (.error .allKeysGated, t)
    | (some key, t) =>
      if leg.refuses then (.error .keyOpen, t)
      else match leg.base with
        | .error err => (.error (.network err), t)
        | .ok r => (.ok r, t.accountLevelFault env key.id r leg.now)

/-! ## One attempt -/

/-- What the outside answers to one attempt beyond its `RoundTrip`: whether the
request could be built, the state of the caller's context and of the first-byte
timer when an error is classified, the first body byte, and who won the disarm. -/
structure Try where
  built : Bool
  leg : Leg
  parentDone : Bool
  timedOut : Bool
  peek : Except NetError Unit
  disarmed : Bool

/-- `tryOnce`: the outcome and the upstream's hint for the back-off. -/
def tryOnce (t : Transport) (one : Try) : Outcome × ℤ × Transport :=
  if !one.built then (resolve .upstream, 0, t)
  else match t.roundTrip env one.leg with
    | (.error err, t) => (resolve (classifyConnectErr err one.parentDone one.timedOut), 0, t)
    | (.ok resp, t) =>
      if resp.statusCode < 200 ∨ resp.statusCode ≥ 300 then
        let ra := parseRetryAfter env resp.retryAfter one.leg.now
        let cls := classifyStatus resp.statusCode
        if cls = .upstreamRejected then (resolveRejected (rejectionReason env resp.body), ra, t)
        else (resolve cls, ra, t)
      else match one.peek with
        | .error err => (resolve (classifyPeekErr err one.parentDone one.timedOut), 0, t)
        | .ok () =>
          if !one.disarmed then (resolve .timeout, 0, t)
          else ({ faultClass := .ok }, 0, t)

/-! ## The failover loop -/

/-- `retryPolicy`. -/
structure RetryPolicy where
  maxAttempts : ℕ
  base : ℤ
  cap : ℤ

/-- `defaultRetryPolicy`. -/
def defaultRetryPolicy : RetryPolicy := ⟨3, 200000000, 3 * second⟩

/-- `backoff`, with the random draw below its bound. -/
def RetryPolicy.backoff (p : RetryPolicy) (attempt : ℕ) (random : ℤ → ℤ) : ℤ :=
  let d := (Int64.ofInt (p.base * 2 ^ (attempt - 1))).toInt
  let d := if d > p.cap ∨ d ≤ 0 then p.cap else d
  random (d + 1)

/-- What the outside answers to one turn of the loop: the attempt, the random
draw, and whether the caller goes away before a wait of that length is over. -/
structure Turn where
  one : Try
  random : ℤ → ℤ
  canceledWithin : ℤ → Bool

/-- The wait before the next attempt. -/
def RetryPolicy.wait (p : RetryPolicy) (n : ℕ) (random : ℤ → ℤ) (retryAfter : ℤ) : ℤ :=
  let wait := p.backoff n random
  let wait := if retryAfter > wait then retryAfter else wait
  if wait > p.cap then p.cap else wait

/-- The client of one backend, with the wiring `do` checks before anything else. -/
structure Client where
  endpoint : String
  transport : Transport
  retry : RetryPolicy

/-- What the loop leaves: every attempt's outcome in order, its own outcome, and
the key pool. -/
structure Attempted where
  made : List Outcome
  outcome : Outcome
  transport : Transport

/-- `attempt`, from its `n`-th turn on, with so many turns left. -/
def attemptFrom (p : RetryPolicy) (turns : ℕ → Turn) :
    ℕ → ℕ → Transport → Outcome → Attempted
  | 0, _, t, last => ⟨[], last, t⟩
  | left + 1, n, t, _ =>
    let turn := turns n
    let (o, retryAfter, t) := tryOnce env t turn.one
    if o.faultClass = .ok then ⟨[o], o, t⟩
    else if !o.retryable || n = p.maxAttempts then ⟨[o], o, t⟩
    else if turn.canceledWithin (p.wait n turn.random retryAfter) then
      ⟨[o], { resolve .clientCancel with exposure := .definitelyUnbilled }, t⟩
    else
      let rest := attemptFrom p turns left (n + 1) t o
      { rest with made := o :: rest.made }

/-- `attempt`. -/
def attempt (c : Client) (turns : ℕ → Turn) : Attempted :=
  attemptFrom env c.retry turns c.retry.maxAttempts 1 c.transport { faultClass := .ok }

/-! ## The call -/

/-- `CallFailure`. -/
structure CallFailure where
  apiError : APIError
  reason : Option Rejected := none
  exposure : ChargeExposure
  deriving DecidableEq

/-- `callFailure`. -/
def callFailure (ae : Option APIError) (reason : Option Rejected) (exposure : ChargeExposure) :
    CallFailure := ⟨ae.getD .upstreamError, reason, exposure⟩

/-- What the process breaker answers: its state at the first look, and whether it
then refuses to run its function. -/
structure Breaker where
  isOpen : Bool
  refuses : Bool

/-- A call: the attempts made, and a stream or the failure. -/
structure Called where
  made : List Outcome
  result : Except CallFailure Unit

/-- `do`, and with it `DoCall`. -/
def doCall (c : Client) (breaker : Breaker) (turns : ℕ → Turn) : Called :=
  if c.endpoint = "" ∨ c.transport.keys = [] then
    ⟨[], .error (callFailure (some .upstreamError) none .definitelyUnbilled)⟩
  else if breaker.isOpen then
    ⟨[], .error (callFailure (some .upstreamBusy) none .definitelyUnbilled)⟩
  else if breaker.refuses then
    ⟨[], .error (callFailure (some .upstreamBusy) none .definitelyUnbilled)⟩
  else
    let ran := attempt env c turns
    if ran.outcome.faultClass = .ok then
      -- An attempt set of length zero reports success without a stream.
      if ran.made = [] then ⟨[], .error (callFailure (some .upstreamError) none .chargePossible)⟩
      else ⟨ran.made, .ok ()⟩
    else ⟨ran.made, .error (callFailure ran.outcome.apiErr ran.outcome.reason ran.outcome.exposure)⟩

end AnselmGateway.Upstream
