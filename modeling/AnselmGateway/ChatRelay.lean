import AnselmGateway.APIError
import AnselmGateway.ChatUsage
import AnselmGateway.Foundation.LineScanner
import AnselmGateway.Quota
import AnselmGateway.ResponseModel

/-! What the chat service does with a reserved request: it asks the provider, relays
what the provider sends, and closes the reservation. -/
namespace AnselmGateway.ChatRelay
open Foundation Billing Quota ResponseModel ChatUsage

/-- The largest line the relay's scanner takes. -/
def maxTokenSize : ℕ := 1024 * 1024

def nonStreamBodyLimit : ℕ := 8 * 1024 * 1024

/-! ## The client -/

/-- Which writes to the client fail, by their number, and how many bytes still reach it. -/
abbrev Failures := ℕ → Option ℕ

/-- What the client was sent. -/
structure Client where
  status : Option ℕ := none
  error : Option APIError := none
  body : Bytes := []
  writes : ℕ := 0
  deriving DecidableEq

/-- `Write`, and whether it succeeded. -/
def Client.write (fails : Failures) (p : Bytes) (c : Client) : Bool × Client :=
  match fails c.writes with
  | none => (true, { c with body := c.body ++ p, writes := c.writes + 1 })
  | some n => (false, { c with body := c.body ++ p.take n, writes := c.writes + 1 })

/-- `writeErr`. -/
def Client.writeErr (ae : APIError) (c : Client) : Client :=
  { c with status := some ae.status, error := some ae }

/-! ## Accounting -/

/-- A call that bears on the reservation. -/
inductive Call where
  | opened
  | settle (amount : Int64)
  | rollback
  deriving DecidableEq

/-- One request after its reservation: the calls it made and what its client has. -/
structure Saga where
  calls : List Call := []
  client : Client := {}
  deriving DecidableEq

def Saga.ask (s : Saga) : Saga := { s with calls := s.calls ++ [.opened] }

def Saga.settle (amount : Int64) (s : Saga) : Saga := { s with calls := s.calls ++ [.settle amount] }

def Saga.rollback (s : Saga) : Saga := { s with calls := s.calls ++ [.rollback] }

def Saga.writeErr (ae : APIError) (s : Saga) : Saga := { s with client := s.client.writeErr ae }

/-- What `settleFromUsage` settles: an uncertain charge is never refunded. -/
def actualPUSD (resv : Reservation) (usage : Usage) : Int64 :=
  match resv.plan.cost usage with
  | .ok (some cost) => cost
  | _ => resv.reservedPUSD

def settleFromUsage (resv : Reservation) (usage : Usage) (s : Saga) : Saga :=
  s.settle (actualPUSD resv usage)

/-- Evidence that the usage cannot be trusted. -/
def malformedUsage : Usage := { malformed := true }

/-! ## Streams -/

/-- The relay's own state: the usage so far, whether the sentinel was read, and the client. -/
structure Relayed where
  usage : Usage := {}
  terminal : Bool := false
  client : Client := {}
  deriving DecidableEq

def Relayed.merge (usage : Usage) (r : Relayed) : Relayed :=
  { r with usage := r.usage.mergeSnapshot usage }

section Relay
variable (fails : Failures) (publicModelID : String)

/-- The loop over the scanner's lines. `failed` is how the stream ends and `tooLong`
how the scanner does; behind the loop stands the look at the scanner's error, which
is there once the stream has ended. -/
def relayLines (failed tooLong : Bool) : List (Bytes × Bool) → Relayed → Relayed
  | [], r => if tooLong || failed then r.merge malformedUsage else r
  | (line, ended) :: lines, r =>
    match rewriteClientModelSSELine line publicModelID with
    | none => r.merge malformedUsage
    | some clientLine =>
      let r := r.merge (parseUsageSnapshotLine line)
      let r := if isDONE line then { r with terminal := true } else r
      match r.client.write fails clientLine with
      | (false, client) => { r with client := client }
      | (true, client) =>
        match client.write fails [newline] with
        | (false, client) => { r with client := client }
        | (true, client) =>
          let r := { r with client := client }
          if r.terminal then if ended && failed then r.merge malformedUsage else r
          else relayLines failed tooLong lines r

/-- The relay of a whole stream. -/
def relay (body : Stream) (client : Client) : Relayed :=
  let scan := body.scan maxTokenSize
  relayLines fails publicModelID body.failed scan.tooLong scan.lines { client := client }

def streamThrough (body : Stream) (resv : Reservation) (s : Saga) : Saga :=
  let r := relay fails publicModelID body { s.client with status := some 200 }
  let usage := if r.terminal then r.usage else r.usage.mergeSnapshot malformedUsage
  settleFromUsage resv usage { s with client := r.client }

/-! ## Whole bodies -/

/-- A body that could not be read whole, or is longer than the limit, is no response. -/
def nonStreamThrough (body : Stream) (resv : Reservation) (s : Saga) : Saga :=
  if body.failed || body.bytes.length > nonStreamBodyLimit then
    (s.settle resv.reservedPUSD).writeErr .upstreamError
  else match rewriteClientModelJSON body.bytes publicModelID with
    | none => (s.settle resv.reservedPUSD).writeErr .upstreamError
    | some data =>
      let s := settleFromUsage resv (parseUsageSnapshotBody data) s
      { s with client := (Client.write fails data { s.client with status := some 200 }).2 }

/-! ## The request -/

/-- `UpstreamFailure`. -/
structure UpstreamFailure where
  apiError : Option APIError
  exposure : ChargeExposure
  deriving DecidableEq

/-- What `Open` returns: a failure, a stream, or, of a broken adapter, neither. -/
abbrev Opened := Except UpstreamFailure (Option Stream)

/-- `forward`. What it defers rolls back unless the reservation was taken over. -/
def forward (stream : Bool) (opened : Opened) (resv : Reservation) (s : Saga) : Saga :=
  let deferred (rollbackArmed accountingExposure : Bool) (s : Saga) : Saga :=
    if rollbackArmed && !accountingExposure then s.rollback else s
  let s := s.ask
  match opened with
  | .error failure =>
    let aerr := failure.apiError.getD .upstreamError
    let accountingExposure := failure.exposure.mayHaveCharged
    let rollbackArmed := !accountingExposure
    let s := if accountingExposure then s.settle resv.reservedPUSD else s
    deferred rollbackArmed accountingExposure (s.writeErr aerr)
  | .ok none => deferred false true ((s.settle resv.reservedPUSD).writeErr .upstreamError)
  | .ok (some body) =>
    deferred false true
      (if stream then streamThrough fails publicModelID body resv s
      else nonStreamThrough fails publicModelID body resv s)

/-- What decides how a reserved request goes on. -/
structure Request where
  stream : Bool
  breakerOpen : Bool
  slot : Bool
  canceled : Bool
  opened : Opened

/-- `Handle`, from a successful `Reserve` on. -/
def afterReserve (request : Request) (resv : Reservation) : Saga :=
  let s : Saga := {}
  if request.breakerOpen then s.rollback.writeErr .upstreamBusy
  else if !request.slot then
    if request.canceled then s.rollback else s.rollback.writeErr .upstreamBusy
  else forward fails publicModelID request.stream request.opened resv s

end Relay

end AnselmGateway.ChatRelay
