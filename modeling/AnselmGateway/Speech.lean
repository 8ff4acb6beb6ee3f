import AnselmGateway.Billing
import AnselmGateway.Foundation.Float64
import AnselmGateway.Foundation.Json.Tree

/-! Realtime speech, `internal/transport/httpapi/handlers/business/speech` over
`internal/app/speech`: the frames of a client go to the provider one by one, and the
session is closed once, by what was forwarded. What the provider sends back only decides
when the loop ends. -/
namespace AnselmGateway.Speech
open Foundation Foundation.Json Billing

/-! ## Frames -/

def maxAudioFrameBytes : ℕ := 256 * 1024

/-- `sessionMaxAge`, in seconds. -/
def sessionMaxAge : ℕ := 2 * 60

def pcm16MonoBytesSec : ℕ := 32000

/-- What a control message asks for. -/
inductive Action where
  | finish
  | commit
  | cancel
  deriving DecidableEq

/-- `parseControl`, over the JSON of the payload, if it is any. -/
def parseControl (payload : Option Tree) : Option Action := do
  let raw ← payload
  let fields ← raw.intoMap
  let type ← fields.text "type" ""
  if type = "finish" then some .finish
  else if type = "commit" then some .commit
  else if type = "cancel" then some .cancel
  else none

/-- A message of the client. -/
inductive Frame where
  | binary (payload : Bytes)
  | text (payload : Option Tree)

/-- One turn of the client loop: whether the provider is done before it, what is read,
`none` where reading fails, and whether a write to the provider goes through. -/
structure Turn where
  upDone : Bool
  frame : Option Frame
  written : Bool

/-- A write to the provider that was attempted. -/
inductive Write where
  | audio (payload : Bytes)
  | control (action : Action)
  deriving DecidableEq

/-- The loop: what counts as forwarded, and the writes so far. -/
structure Loop where
  forwardedAudioBytes : ℕ
  writes : List Write

/-- A write is attempted, whatever comes of it. -/
def Loop.attempt (l : Loop) (write : Write) : Loop := { l with writes := l.writes ++ [write] }

/-- A binary message. The handler returns where this is an error. -/
def onAudio (l : Loop) (payload : Bytes) (written : Bool) : Except Loop Loop :=
  if payload.length = 0 ∨ payload.length > maxAudioFrameBytes then .error l
  else if l.forwardedAudioBytes + payload.length > sessionMaxAge * pcm16MonoBytesSec then .error l
  else if !written then .error (l.attempt (.audio payload))
  else
    let l := l.attempt (.audio payload)
    .ok { l with forwardedAudioBytes := l.forwardedAudioBytes + payload.length }

/-- A text message; whether its write goes through is not looked at. -/
def onControl (l : Loop) (payload : Option Tree) : Except Loop Loop :=
  match parseControl payload with
  | none => .error l
  | some .finish => .ok (l.attempt (.control .finish))
  | some .cancel => .error l
  | some .commit => .ok (l.attempt (.control .commit))

/-- One turn of the loop. -/
def readTurn (l : Loop) (turn : Turn) : Except Loop Loop :=
  if turn.upDone then .error l
  else match turn.frame with
    | none => .error l
    | some (.binary payload) => onAudio l payload turn.written
    | some (.text payload) => onControl l payload

/-! ## Sessions -/

/-- A session once its seconds are reserved: whether the provider is reached, the client
upgraded and the session configured, and the turns of the loop. -/
structure Session where
  dialed : Bool
  upgraded : Bool
  configured : Bool
  turns : List Turn

def idle : Loop := ⟨0, []⟩

/-- `ServeHTTP` behind the reservation: an error is where it returned. -/
def Session.run (s : Session) : Except Loop Loop :=
  if !s.dialed then .error idle
  else if !s.upgraded then .error idle
  else if !s.configured then .error idle
  else s.turns.foldlM readTurn idle

/-- A call that closes a reservation. -/
inductive Close where
  | rollback
  | settle (audioBytes : ℕ)
  deriving DecidableEq

/-- What the deferred function closes over. -/
structure Books where
  finalized : Bool
  calls : List Close

/-- `finalize`. -/
def Books.finalize (books : Books) (forwardedAudioBytes : ℕ) : Books :=
  if books.finalized then books
  else
    let close := if forwardedAudioBytes ≤ 0 then .rollback else .settle forwardedAudioBytes
    { finalized := true, calls := books.calls ++ [close] }

/-- The calls of a session: what was deferred runs when the handler returns. -/
def Session.calls (s : Session) : List Close :=
  match s.run with
  | .ok _ => []
  | .error l => (Books.finalize ⟨false, []⟩ l.forwardedAudioBytes).calls

/-! ## Settlement -/

def pcmSampleRateHz : ℕ := 16000
def pcmBytesPerFrame : ℕ := 2

/-- `AudioBytesToBillableSeconds`, by a division of doubles. -/
def audioBytesToBillableSeconds (n : ℕ) : ℤ :=
  if n ≤ 0 then 0
  else ⌈Float64.round (Float64.round n / Float64.round ((pcmSampleRateHz * pcmBytesPerFrame : ℕ) : ℚ))⌉

/-- The plan that `Reserve` holds a session with. -/
def reservePlan (maxAudioSeconds : ℕ) : Except BillingError Plan :=
  newUnitPlan providerQwen qwen3ASRFlashRealtime .audioSeconds (Int64.ofNat maxAudioSeconds)

/-- The cost that `Settle` asks for. -/
def settleCost (plan : Plan) (audioBytes : ℕ) : Except BillingError Int64 :=
  plan.unitCost .audioSeconds (Int64.ofInt (audioBytesToBillableSeconds audioBytes))

end AnselmGateway.Speech
