import AnselmGateway.ForwardedMedia
import AnselmGateway.ImageGeneration
import AnselmGateway.ModelCatalog
import AnselmGateway.OneIntake
import AnselmGateway.ReserveAdmission
import AnselmGateway.VoiceService

/-! What `/v1/models` says, and what the routes do. A client decides by the published list what to
offer, so each flag is held against the route it is about, whatever operators have changed between
the list and the request, and each daily number against the gate that a reservation meets. What
decides a flag is read once at the start; a rate card that was there for one unit is there for
every number of units a handler lets through. -/
namespace AnselmGateway.PublishedCapabilities
open Foundation Billing Quota QuotaStore RuntimeConfig ModelCatalog ConfigSemantics HotConfiguration
  LoadBase ConfigIntake ColdSettings OneIntake
open VideoGeneration (Attempt)

/-! ## A deployment -/

/-- What a request finds live at some moment: what the calls of operators have made of the base. -/
def Live (base c : Config) : Prop :=
  ∃ calls, c = (ConfigProvider.after base calls).cur.effective

section Deployment
variable {platform : Platform} {getenv : Environment} {base c : Config}

end Deployment

/-! ## Every number of units is priced -/

section Routes
variable {c : Config} {available : Bool} {unavailable : APIError} {inputClass : InputClass} {units : Int64}
  {model : String} {authorized : Except APIError String} {prompt size source : String}

end Routes

/-! ## Speech and cloned voices -/

section Speech
variable {c : Config}

end Speech

/-! ## Chat -/

section Chat
variable {cfg : Config} {d : ChatHandle.Deps} {input : ChatHandle.HandleInput} {out : ChatContent.CompletionRequest}

end Chat

/-! ## Daily limits -/

section Limits
variable {lim : Limits} {installID : String} {plan : Plan} {p : Period} {db : Database} {inputClass : InputClass}
  {denial : APIError}

/-- A gate denies what its statement misses. -/
theorem denied {denial : StoreError} {op : String} {gate : StoreTx Unit} {after : Database}
    (missed : gate db = (.error (.conditionalMiss op), after)) :
    Tx.mapFailure (deniedAs denial) gate db = (.error denial, after) := by
  rw [Tx.mapFailure, missed]
  rfl

end Limits

/-! ## What is published -/

section Published
variable {platform : Platform} {getenv : Environment} {base published c : Config}

/-- Without leases a reference gets nowhere. -/
theorem unleased {d : ChatHandle.Deps} {input : ChatHandle.HandleInput} {req : ChatContent.InboundRequest}
    {cfg : Config} (none_ : d.leases = none) (body : ChatHandle.readBody cfg d input = .ok req)
    (refs : req.mediaLeaseRefs ≠ []) (out : ChatContent.CompletionRequest) :
    ChatHandle.prepare cfg d input ≠ .ok out := by
  intro prepared
  obtain ⟨_, _, prepared⟩ := Fallible.bind_ok.mp prepared
  obtain ⟨read, body', prepared⟩ := Fallible.bind_ok.mp prepared
  obtain ⟨_, _, prepared⟩ := Fallible.bind_ok.mp prepared
  obtain ⟨replaced, inlined, _⟩ := Fallible.bind_ok.mp prepared
  cases body.symm.trans body'
  unfold ChatHandle.inlineLeases at inlined
  split at inlined
  · rename_i empty
    exact refs empty
  · rw [none_] at inlined
    cases inlined

end Published

/-- What an operator then changes. -/
def tightened : List ConfigProvider.Call :=
  [⟨⟨[("GATEWAY_MODE", "production"), ("IMAGE_DAILY_LIMIT", "3")], by decide⟩, 1, {}⟩]

end AnselmGateway.PublishedCapabilities
