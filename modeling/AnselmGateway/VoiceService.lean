import AnselmGateway.Voice

/-! Speech and cloned voices as their clients see them: the use cases of `internal/app/voice`
and `internal/app/tts` behind the handlers `voices` and `audio`, over one database and one
provider account. Every operation of every call is a turn of its own. -/
namespace AnselmGateway.VoiceService
open Foundation Billing Quota QuotaStore Genrun VoiceStore

/-! ## The handlers -/

/-- `maxNameChars`, in runes. -/
def maxNameChars : ℕ := 120

/-- `maxInputChars`. -/
def maxInputChars : ℕ := 500

/-- `maxVoiceChars`. -/
def maxVoiceChars : ℕ := 64

/-- A call of one of the use cases. -/
inductive Call where
  | enroll (installID name leaseID : String)
  | list (installID : String)
  | delete (installID id : String)
  | synthesize (installID text voice : String)

/-- A request with the right method and a body that decodes. -/
inductive Request where
  | enroll (installID name leaseID : String)
  | list (installID : String)
  | delete (installID voiceID : String)
  | speech (installID input voice : String)

/-- The use case a handler calls, once the shape of the request holds. -/
def Request.call : Request → Except APIError Call
  | .enroll installID name leaseID =>
    if trimSpace name = "" ∨ (trimSpace name).length > maxNameChars then .error .badRequest
    else if trimSpace leaseID = "" then .error .voiceSampleInvalid
    else .ok (.enroll installID (trimSpace name) (trimSpace leaseID))
  | .list installID => .ok (.list installID)
  | .delete installID voiceID =>
    if trimSpace voiceID = "" then .error .badRequest
    else .ok (.delete installID (trimSpace voiceID))
  | .speech installID input voice =>
    if trimSpace input = "" ∨ (trimSpace input).length > maxInputChars then .error .badRequest
    else if (trimSpace voice).length > maxVoiceChars then .error .badRequest
    else .ok (.synthesize installID (trimSpace input) (trimSpace voice))

/-- `voiceItem`, whose `createdAt` counts seconds. -/
structure VoiceItem where
  voiceID : String
  name : String
  createdAt : ℤ
  deriving DecidableEq, Repr

def voiceItem (v : Voice) : VoiceItem := ⟨v.id, v.name, v.createdAt / second⟩

/-- What a handler writes back. -/
inductive Response where
  | enrolled (voice : VoiceItem)
  | listed (voices : List VoiceItem) (capacity remaining : ℕ)
  | deleted
  | audio (bytes : Bytes)
  | error (error : APIError)
  deriving DecidableEq

/-- What `enroll` and `del` make of the use case's answer. -/
def respond : Voice.Reply → Response
  | .enrolled v => .enrolled (voiceItem v)
  | .deleted => .deleted
  | .failed error => .error error

/-- `listResponse`. -/
def listResponse (rows : List Voice) : Response :=
  .listed (rows.map voiceItem) perInstallInventory (perInstallInventory - rows.length)

/-! ## Calls in flight -/

/-- A synthesis past its authorization, with the settings it then reads. -/
structure Synthesis where
  installID : String
  text : String
  voice : String
  model : String
  ttsDefaultVoice : String
  deriving DecidableEq

/-- The voice asked for: the one requested, or the default. -/
def Synthesis.name (c : Synthesis) : String :=
  if trimSpace c.voice = "" then trimSpace c.ttsDefaultVoice else c.voice

/-- `utf8.RuneCountInString` of the text. -/
def Synthesis.characters (c : Synthesis) : Int64 := Int64.ofNat c.text.length

def Synthesis.plan (c : Synthesis) : Except BillingError Plan :=
  newUnitPlan providerQwen c.model .characters c.characters

/-- Where a call stands: an enrollment or a deletion, or the operation a listing or a
synthesis makes next. -/
inductive Flight where
  | voice (proc : Voice.Proc)
  | listAuthorize (installID : String)
  | listRows (installID : String)
  | synthAuthorize (installID text voice : String)
  | synthReserve (c : Synthesis)
  | synthResolve (c : Synthesis) (plan : Plan) (res : Reservation)
  | synthSpeak (c : Synthesis) (plan : Plan) (res : Reservation) (voice : String)
  | synthClose (c : Synthesis) (plan : Plan) (res : Reservation) (answer : Answer Bytes)

/-- One turn, with what speech reads from outside. -/
structure Turn where
  base : Voice.Turn
  ttsUpstreamModel : String
  ttsDefaultVoice : String
  spoken : Answer Bytes

/-- What the provider has been asked to speak with, and for whom. -/
structure Sent where
  synthesis : Synthesis
  voice : String

structure Result where
  flight : Flight
  world : Voice.World
  sent : Option Sent
  response : Option Response

def stay (world : Voice.World) (flight : Flight) : Result := ⟨flight, world, none, none⟩

def finish (world : Voice.World) (response : Response) : Result :=
  ⟨.voice .done, world, none, some response⟩

/-- `resolveVoice`, over what `ListVoices` has answered. -/
def resolveVoice (rows : Option (List Voice)) (voice : String) : String :=
  if trimSpace voice = "" then voice
  else match rows with
    | none => voice
    | some rows =>
      match rows.find? fun v => decide (v.id = trimSpace voice) && decide (trimSpace v.upstreamID ≠ "") with
      | none => voice
      | some v => v.upstreamID

/-- The next operation of a call in flight. -/
def turnOf (turn : Turn) (world : Voice.World) : Flight → Result
  | .voice proc =>
    let result := Voice.turnOf turn.base world proc
    ⟨.voice result.proc, result.world, none, result.reply.map respond⟩
  | .listAuthorize installID =>
    match authorize installID turn.base.lookup turn.base.allowed with
    | .error ae => finish world (.error ae)
    | .ok got => stay world (.listRows got)
  | .listRows installID =>
    match Voice.query turn.base (listVoices installID) world with
    | none => finish world (.error .internal)
    | some rows => finish world (listResponse rows)
  | .synthAuthorize installID text voice =>
    match authorize installID turn.base.lookup turn.base.allowed with
    | .error ae => finish world (.error ae)
    | .ok got => stay world
        (.synthReserve ⟨got, text, voice, trimSpace turn.ttsUpstreamModel, turn.ttsDefaultVoice⟩)
  | .synthReserve c =>
    match c.plan with
    | .error _ => finish world (.error .internal)
    | .ok plan =>
      match turn.base.outcome, reserve turn.base.inputs.random turn.base.inputs.reservedAt c.installID
          plan turn.base.inputs.period turn.base.inputs.limits world.wallet.db with
      | .refused, _ => finish world (.error .internal)
      | _, (.error failure, db) =>
        finish { world with wallet := { world.wallet with db := db } } (.error (reserveErr failure))
      | .late, (.ok _, db) =>
        finish { world with wallet := { world.wallet with db := db } } (.error .internal)
      | .through, (.ok res, db) =>
        stay { world with wallet := { world.wallet with db := db } } (.synthResolve c plan res)
  | .synthResolve c plan res =>
    stay world (.synthSpeak c plan res
      (resolveVoice (Voice.query turn.base (listVoices c.installID) world) c.name))
  | .synthSpeak c plan res voice =>
    ⟨.synthClose c plan res turn.spoken, world, some ⟨c, voice⟩, none⟩
  | .synthClose c plan res answer =>
    let charge : Charge := ⟨plan, .characters, c.characters⟩
    let wallet := closeOut turn.base.fails turn.base.inputs.closedAt charge res answer world.wallet
    match reply answer with
    | .ok audio => finish { world with wallet := wallet } (.audio audio)
    | .error ae => finish { world with wallet := wallet } (.error ae)

/-- The registration a turn is told of, and the install it is for. -/
def minted (turn : Turn) : Flight → List (String × String)
  | .voice (.enrollUpstream c _ _) =>
    match turn.base.enrolled with
    | .value upstreamID => [(c.installID, upstreamID)]
    | .failed _ _ => []
  | _ => []

/-! ## Runs -/

/-- The calls over the shared state, in the order of their arrival. Beside it: what the
provider was asked to speak with, whom it has registered what for, and what the clients
were told, each under the number of its call. -/
structure State where
  world : Voice.World
  flights : List Flight
  sent : List Sent
  minted : List (String × String)
  responses : List (ℕ × Response)

def State.initial : State := ⟨Voice.State.initial.world, [], [], [], []⟩

/-- The checks of a use case before its first operation. `VoiceAvailable` is
`SpeechAvailable`. -/
def begin_ (settings : Voice.Settings) : Call → Flight ⊕ APIError
  | .enroll installID name leaseID =>
    (Voice.begin_ settings (.enroll installID name leaseID)).map .voice (fun ae => ae)
  | .list installID => .inl (.listAuthorize installID)
  | .delete installID id => (Voice.begin_ settings (.delete installID id)).map .voice (fun ae => ae)
  | .synthesize installID text voice =>
    if !settings.voiceAvailable then .inr .ttsUnavailable
    else .inl (.synthAuthorize installID text voice)

/-- A call comes in, and is answered at once where it does not get past its checks. -/
def State.enter (state : State) : Flight ⊕ APIError → State
  | .inl flight => { state with flights := state.flights ++ [flight] }
  | .inr ae => { state with
      flights := state.flights ++ [.voice .done]
      responses := state.responses ++ [(state.flights.length, .error ae)] }

/-- What happens next: a request arrives, a use case is called, or a call in flight takes
a turn. -/
inductive Event where
  | request (settings : Voice.Settings) (request : Request)
  | call (settings : Voice.Settings) (call : Call)
  | turn (index : ℕ) (turn : Turn)

def step (state : State) : Event → State
  | .request settings request =>
    match request.call with
    | .ok call => state.enter (begin_ settings call)
    | .error ae => state.enter (.inr ae)
  | .call settings call => state.enter (begin_ settings call)
  | .turn index turn =>
    match state.flights[index]? with
    | none => state
    | some flight =>
      let result := turnOf turn state.world flight
      { world := result.world
        flights := state.flights.set index result.flight
        sent := state.sent ++ result.sent.toList
        minted := state.minted ++ minted turn flight
        responses := state.responses ++ result.response.toList.map (index, ·) }

/-- The state a run of events leads to. -/
def after (events : List Event) : State := runSteps step .initial events

end AnselmGateway.VoiceService
