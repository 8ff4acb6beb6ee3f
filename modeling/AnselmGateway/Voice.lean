import AnselmGateway.Foundation.Bytes
import AnselmGateway.Foundation.Run
import AnselmGateway.Genrun
import AnselmGateway.VoiceStore
import Mathlib.Data.List.Infix

/-! Cloned voices, `internal/app/voice`, as calls in flight over one database and
one provider account. A call stops between any two of its operations, so a run of
turns is an interleaving of calls. What the provider has done for them is kept
beside what the gateway has recorded. -/
namespace AnselmGateway.Voice
open Foundation Billing Quota QuotaStore Genrun VoiceStore

/-- The hot settings the use case reads. -/
structure Settings where
  voiceAvailable : Bool
  voiceAccountCeiling : ℤ
  mediaFetchDomain : String
  deriving DecidableEq

/-- `Logger`, but for the two counters kept beside the wallet. -/
inductive Signal where
  | accountVoiceCeilingReached (total : ℕ) (ceiling : ℤ)
  | voiceOrphaned (upstreamID : String)
  | sampleNotRevoked (leaseID : String)
  | voiceSlowToDeploy (upstreamID : String)
  deriving DecidableEq, Repr

/-- The provider's side: every registration a call was told of, and the ones a
deletion has removed or found removed. -/
structure Provider where
  registered : List String
  deleted : List String
  absent : List String

/-- The shared state under all calls; `drawn` holds the ids `idgen` has handed
out. -/
structure World where
  voices : Voices
  wallet : Genrun.State
  provider : Provider
  log : List Signal
  drawn : List String

/-! ## Calls -/

inductive Call where
  | enroll (installID name leaseID : String)
  | delete (installID id : String)

/-- An enrollment past its authorization. `total` is what the ceiling check has
counted, if it ran. -/
structure Enrollment where
  installID : String
  name : String
  leaseID : String
  total : Option ℕ
  deriving DecidableEq

/-- A deletion that has found its voice. -/
structure Deletion where
  installID : String
  id : String
  upstreamID : String
  deriving DecidableEq

/-- The URL `PublicFetchURL` builds. -/
structure FetchURL where
  host : String
  path : String
  token : String
  deriving DecidableEq

/-- Where a call in flight stands: the operation it makes next, and what it holds
from the earlier ones. -/
inductive Proc where
  | done
  | enrollAuthorize (installID name leaseID : String)
  | enrollList (c : Enrollment)
  | enrollCount (c : Enrollment)
  | enrollReserve (c : Enrollment)
  | enrollToken (c : Enrollment) (res : Reservation)
  | enrollUpstream (c : Enrollment) (res : Reservation) (sampleURL : FetchURL)
  | enrollClose (res : Reservation) (unbilled : Bool) (error : APIError)
  | enrollSettle (c : Enrollment) (res : Reservation) (upstreamID : String)
  | enrollAwait (c : Enrollment) (upstreamID : String)
  | enrollRevoke (c : Enrollment) (upstreamID : String) (ready : Bool)
  | enrollCreate (c : Enrollment) (upstreamID : String)
  | enrollUndo (upstreamID : String) (error : VoiceError)
  | deleteAuthorize (installID id : String)
  | deleteList (installID id : String)
  | deleteUpstream (d : Deletion)
  | deleteLookup (d : Deletion)
  | deleteRow (d : Deletion)
  deriving DecidableEq

/-- What a call tells its caller. -/
inductive Reply where
  | enrolled (v : Voice)
  | deleted
  | failed (error : APIError)
  deriving DecidableEq

/-- How one operation goes: through, refused without effect, or reported as failed
after its effect. -/
inductive Outcome where
  | through
  | refused
  | late
  deriving DecidableEq, Repr

/-- What the provider answers to `DeleteVoice`. -/
inductive Removal where
  | removed
  | alreadyAbsent
  | failed
  deriving DecidableEq, Repr

/-- One turn of a call: how its operation goes, and all it would read from outside. -/
structure Turn where
  outcome : Outcome
  settings : Settings
  lookup : Option (Option (String × InstallStore.Status))
  allowed : Bool
  inputs : Inputs
  fails : Moment → Bool
  token : Option String
  enrolled : Answer String
  ready : Bool
  removal : Removal
  voiceID : String
  now : ℤ

/-- What a turn leaves: the call where it now stands, the shared state, and an
answer if the call has one. -/
structure Result where
  proc : Proc
  world : World
  reply : Option Reply

def stay (world : World) (proc : Proc) : Result := ⟨proc, world, none⟩

def finish (world : World) (reply : Reply) : Result := ⟨.done, world, some reply⟩

def fail (world : World) (error : APIError) : Result := finish world (.failed error)

/-- A query. -/
def query {α : Type} (turn : Turn) (operation : Voices → α) (world : World) : Option α :=
  match turn.outcome with
  | .through => some (operation world.voices)
  | _ => none

/-- `strings.Contains`. -/
def contains (text part : String) : Bool := decide (part.toList <:+: text.toList)

/-- `PublicFetchURL`. -/
def publicFetchURL (host leaseID token : String) : Option FetchURL :=
  let host := trimSpace host
  if host = "" then none
  else if contains host "://" || host.toList.any (fun c => "/?#".toList.contains c) then none
  else if "api.".toList.isPrefixOf host.toList then none
  else if blank leaseID || blank token then none
  else some ⟨host, "/v1/media/leases/" ++ leaseID ++ "/content", token⟩

/-- The checks a call makes before its first operation. -/
def begin_ (settings : Settings) : Call → Proc ⊕ APIError
  | .enroll installID name leaseID =>
    if !settings.voiceAvailable then .inr .voiceUnavailable
    else if blank leaseID then .inr .voiceSampleInvalid
    else if trimSpace name = "" then .inr .badRequest
    else .inl (.enrollAuthorize installID (trimSpace name) leaseID)
  | .delete installID id => .inl (.deleteAuthorize installID id)

/-! ## Enroll -/

/-- Everything before the provider: the two inventory checks, the ceiling, the
wallet, and the address of the sample. -/
def admitStep (turn : Turn) (world : World) : Proc → Result
  | .enrollAuthorize installID name leaseID =>
    match authorize installID turn.lookup turn.allowed with
    | .error ae => fail world ae
    | .ok got => stay world (.enrollList ⟨got, name, leaseID, none⟩)
  | .enrollList c =>
    match query turn (listVoices c.installID) world with
    | none => fail world .internal
    | some mine =>
      if mine.length ≥ perInstallInventory then fail world .voiceInventoryFull
      else if mine.any fun v => decide (v.name = c.name) then fail world .voiceNameTaken
      else stay world (.enrollCount c)
  | .enrollCount c =>
    if turn.settings.voiceAccountCeiling > 0 then
      match query turn countAllVoices world with
      | none => fail world .internal
      | some total =>
        if (total : ℤ) ≥ turn.settings.voiceAccountCeiling then
          fail { world with log := world.log ++
            [.accountVoiceCeilingReached total turn.settings.voiceAccountCeiling] }
            .voiceCapacityReached
        else stay world (.enrollReserve { c with total := some total })
    else stay world (.enrollReserve c)
  | .enrollReserve c =>
    match newUnitPlan providerQwen qwenTTSClone .voices 1 with
    | .error _ => fail world .internal
    | .ok plan =>
      match turn.outcome, reserve turn.inputs.random turn.inputs.reservedAt c.installID plan
          turn.inputs.period turn.inputs.limits world.wallet.db with
      | .refused, _ => fail world .internal
      | _, (.error failure, db) =>
        fail { world with wallet := { world.wallet with db := db } } (reserveErr failure)
      | .late, (.ok _, db) => fail { world with wallet := { world.wallet with db := db } } .internal
      | .through, (.ok res, db) =>
        stay { world with wallet := { world.wallet with db := db } } (.enrollToken c res)
  | .enrollToken c res =>
    match turn.token with
    | none => stay world (.enrollClose res true .voiceSampleInvalid)
    | some token =>
      match publicFetchURL turn.settings.mediaFetchDomain c.leaseID token with
      | none => stay world (.enrollClose res true .voiceUnavailable)
      | some sampleURL => stay world (.enrollUpstream c res sampleURL)
  | other => stay world other

/-- The registration, and everything after it. -/
def registerStep (turn : Turn) (world : World) : Proc → Result
  | .enrollUpstream c res _ =>
    match turn.enrolled with
    | .failed unbilled wire => stay world (.enrollClose res unbilled (wire.getD .upstreamError))
    | .value upstreamID =>
      stay { world with provider := { world.provider with
        registered := world.provider.registered ++ [upstreamID] } } (.enrollSettle c res upstreamID)
  | .enrollClose res unbilled error =>
    let wallet :=
      if unbilled then rollback turn.fails turn.inputs.closedAt res world.wallet
      else settle turn.fails turn.inputs.closedAt res res.reservedPUSD world.wallet
    fail { world with wallet := wallet } error
  | .enrollSettle c res upstreamID =>
    stay { world with
      wallet := settle turn.fails turn.inputs.closedAt res res.reservedPUSD world.wallet }
      (.enrollAwait c upstreamID)
  | .enrollAwait c upstreamID => stay world (.enrollRevoke c upstreamID turn.ready)
  | .enrollRevoke c upstreamID ready =>
    let unrevoked := if turn.outcome = .through then [] else [.sampleNotRevoked c.leaseID]
    let slow := if ready then [] else [.voiceSlowToDeploy upstreamID]
    stay { world with log := world.log ++ (unrevoked ++ slow) } (.enrollCreate c upstreamID)
  | .enrollCreate c upstreamID =>
    let v : Voice := ⟨turn.voiceID, c.name, upstreamID, turn.now⟩
    let world := { world with drawn := world.drawn ++ [turn.voiceID] }
    match turn.outcome, createVoice c.installID v world.voices with
    | .refused, _ => stay world (.enrollUndo upstreamID .failed)
    | _, .error error => stay world (.enrollUndo upstreamID error)
    | .late, .ok voices => stay { world with voices := voices } (.enrollUndo upstreamID .failed)
    | .through, .ok voices => finish { world with voices := voices } (.enrolled v)
  | .enrollUndo upstreamID error =>
    let world := match turn.removal with
      | .removed => { world with provider := { world.provider with
          deleted := world.provider.deleted ++ [upstreamID] } }
      | _ => { world with log := world.log ++ [.voiceOrphaned upstreamID] }
    match error with
    | .inventoryFull => fail world .voiceInventoryFull
    | .nameTaken => fail world .voiceNameTaken
    | .failed => fail world .internal
  | other => stay world other

/-! ## Delete -/

/-- Upstream first, then the row. -/
def deleteStep (turn : Turn) (world : World) : Proc → Result
  | .deleteAuthorize installID id =>
    match authorize installID turn.lookup turn.allowed with
    | .error ae => fail world ae
    | .ok got => stay world (.deleteList got id)
  | .deleteList installID id =>
    match query turn (listVoices installID) world with
    | none => fail world .internal
    | some mine =>
      match mine.find? fun v => decide (v.id = id) with
      | none => fail world .voiceNotFound
      | some target => stay world (.deleteUpstream ⟨installID, id, target.upstreamID⟩)
  | .deleteUpstream d =>
    match turn.removal with
    | .failed => fail world .upstreamError
    | .removed => stay { world with provider := { world.provider with
        deleted := world.provider.deleted ++ [d.upstreamID] } } (.deleteLookup d)
    | .alreadyAbsent => stay { world with provider := { world.provider with
        absent := world.provider.absent ++ [d.upstreamID] } } (.deleteLookup d)
  | .deleteLookup d =>
    match query turn (lookupVoice d.installID d.id) world with
    | none => fail world .internal
    | some none => finish world .deleted
    | some (some _) => stay world (.deleteRow d)
  | .deleteRow d =>
    match turn.outcome with
    | .refused => fail world .internal
    | .late => fail { world with voices := VoiceStore.deleteRow d.installID d.id world.voices } .internal
    | .through =>
      finish { world with voices := VoiceStore.deleteRow d.installID d.id world.voices } .deleted
  | other => stay world other

/-- The next operation of a call in flight. -/
def turnOf (turn : Turn) (world : World) (proc : Proc) : Result :=
  match proc with
  | .done => stay world .done
  | .enrollAuthorize .. | .enrollList .. | .enrollCount .. | .enrollReserve .. | .enrollToken .. =>
    admitStep turn world proc
  | .enrollUpstream .. | .enrollClose .. | .enrollSettle .. | .enrollAwait .. | .enrollRevoke ..
  | .enrollCreate .. | .enrollUndo .. => registerStep turn world proc
  | .deleteAuthorize .. | .deleteList .. | .deleteUpstream .. | .deleteLookup .. | .deleteRow .. =>
    deleteStep turn world proc

/-! ## Runs -/

/-- The calls in flight over the shared state. -/
structure State where
  world : World
  procs : List Proc

def State.initial : State := ⟨⟨.empty, ⟨.empty, ⟨0, 0⟩⟩, ⟨[], [], []⟩, [], []⟩, []⟩

/-- What happens next: a call arrives, or one in flight takes a turn. -/
inductive Event where
  | arrive (settings : Settings) (call : Call)
  | turn (index : ℕ) (turn : Turn)

def step (state : State) : Event → State
  | .arrive settings call =>
    match begin_ settings call with
    | .inl proc => { state with procs := state.procs ++ [proc] }
    | .inr _ => state
  | .turn index turn =>
    match state.procs[index]? with
    | none => state
    | some proc =>
      let result := turnOf turn state.world proc
      ⟨result.world, state.procs.set index result.proc⟩

/-- The state a run of events leads to. -/
def after (events : List Event) : State := runSteps step .initial events

end AnselmGateway.Voice
