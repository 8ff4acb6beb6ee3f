import AnselmGateway.Billing
import AnselmGateway.ChatContent
import AnselmGateway.InstallStore
import AnselmGateway.RuntimeConfig

/-! `Handle` of `internal/app/chat`, up to the point where a request is forwarded: the
gates in their order, and between them the leases a request names, opened one by one
and put into it. -/
namespace AnselmGateway.ChatHandle
open Foundation Billing ChatContent RuntimeConfig

/-! ## Ports -/

/-- `LeaseContent`, with what its body reads as, if it can be read. -/
structure LeaseContent where
  mimeType : String
  sizeBytes : ℕ
  body : Option Bytes

/-- The answers of `OpenLeaseForInstall`, by the number of the call. -/
abbrev MediaLeases := ℕ → MediaLeaseRef → Option LeaseContent

/-- `HandleInput`. -/
structure HandleInput where
  installID : String
  body : Bytes
  bodyError : Bool
  bodyTooLarge : Bool

/-- What a request meets: the decoder, the state of the install, and what the limiter,
the disk, the leases, the upstream, the quota and the slots answer. -/
structure Deps where
  decodeInbound : Bytes → Except APIError InboundRequest
  lookupInstall : String → Except Unit (Option InstallStore.Status)
  allow : Bool
  degraded : Bool
  leases : Option MediaLeases
  available : Bool
  reserve : Plan → Except APIError Unit
  breakerOpen : Bool
  slot : Bool
  canceled : Bool

/-- How a request ends here. -/
inductive Handled where
  | refused (ae : APIError)
  | abandoned
  | forwarded (out : CompletionRequest)

def refuseIf (refused : Bool) (ae : APIError) : Except APIError Unit :=
  if refused then .error ae else .ok ()

/-! ## Gates -/

/-- Identity, rate and disk. -/
def preflight (d : Deps) (input : HandleInput) : Except APIError Unit := do
  refuseIf (input.installID = "") .invalidInstall
  match d.lookupInstall input.installID with
  | .error () => throw .internal
  | .ok none => throw .invalidInstall
  | .ok (some status) =>
    refuseIf (status = .banned) .accountBanned
    refuseIf (!d.allow) .rateLimited
    refuseIf d.degraded .diskLow

/-- The body, decoded and of an acceptable shape. -/
def readBody (cfg : Config) (d : Deps) (input : HandleInput) : Except APIError InboundRequest := do
  refuseIf input.bodyTooLarge .requestBodyTooLarge
  refuseIf input.bodyError .badRequest
  let req ← d.decodeInbound input.body
  refuseIf req.messages.isEmpty (contentError "messages is required")
  match req.shapeError cfg.maxMessages cfg.maxMessageChars with
  | some msg => throw (contentError msg)
  | none => return req

/-- The classification, which no audio passes. -/
def classify (cfg : Config) (req : InboundRequest) : Except APIError Unit := do
  let modality ← req.validateAndClassify ⟨cfg.maxMediaParts, cfg.maxMediaDecodedBytes⟩
  refuseIf (modality = .audio) .audioUnavailable

/-- `io.ReadAll` of an `io.LimitReader` one byte past the recorded size. -/
def readLease (src : LeaseContent) : Option Bytes :=
  match src.body with
  | none => none
  | some body =>
    let data := body.take (src.sizeBytes + 1)
    if data.length = src.sizeBytes then some data else none

/-- The loop over the references: each is opened, metered with the ones before it, and
read whole. -/
def inlineEach (cfg : Config) (leases : MediaLeases) :
    ℕ → List MediaLeaseRef → ℕ → Inline → Except APIError Inline
  | _, [], _, inline => .ok inline
  | i, ref :: refs, inlinedBytes, inline =>
    match leases i ref with
    | none => .error .mediaLeaseNotFound
    | some src =>
      let inlinedBytes := inlinedBytes + src.sizeBytes
      if cfg.maxMediaDecodedBytes > 0 ∧ (inlinedBytes : ℤ) > cfg.maxMediaDecodedBytes then
        .error (contentError "media exceeds the per-request decoded size limit")
      else match readLease src with
        | none => .error .mediaUnavailable
        | some data => inlineEach cfg leases (i + 1) refs inlinedBytes
            ((ref.raw, ⟨src.mimeType, PaddedBase64.encode data⟩) :: inline)

/-- The references of a request, replaced. -/
def inlineLeases (cfg : Config) (d : Deps) (req : InboundRequest) : Except APIError InboundRequest :=
  match req.mediaLeaseRefs with
  | [] => .ok req
  | refs =>
    match d.leases with
    | none => .error .mediaUnavailable
    | some leases => (inlineEach cfg leases 0 refs 0 []).map req.withInlinedMediaLeases

/-- `billingPlan`, for the one provider there is. -/
def billingPlan (model : String) : Except APIError Plan :=
  match lookup providerQwen model with
  | .error _ => .error .internal
  | .ok card =>
    match newPlan providerQwen model .standard card.inputLimit card.outputLimit with
    | .error _ => .error .internal
    | .ok plan => .ok plan

/-- Everything up to the reservation, and the request as it would be forwarded. -/
def prepare (cfg : Config) (d : Deps) (input : HandleInput) : Except APIError CompletionRequest := do
  preflight d input
  let req ← readBody cfg d input
  classify cfg req
  let req ← inlineLeases cfg d req
  refuseIf (!d.available) .multimodalUnavailable
  let plan ← billingPlan cfg.multimodalUpstreamModel
  d.reserve plan
  return sanitize req (boundMaxTokens req.maxTokens (min cfg.maxTokensCap qwen37OutputLimit.toInt)).1

/-- `Handle`. -/
def handle (cfg : Config) (d : Deps) (input : HandleInput) : Handled :=
  match prepare cfg d input with
  | .error ae => .refused ae
  | .ok out =>
    if d.breakerOpen then .refused .upstreamBusy
    else if !d.slot then if d.canceled then .abandoned else .refused .upstreamBusy
    else .forwarded out

end AnselmGateway.ChatHandle
