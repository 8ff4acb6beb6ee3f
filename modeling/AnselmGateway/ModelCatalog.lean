import AnselmGateway.Quota
import AnselmGateway.RuntimeConfig

/-! What a deployment says of itself: the capability predicates of `internal/domain/config`, and over
them the list of `internal/app/model`, in the shapes of `internal/domain/model`. -/
namespace AnselmGateway.RuntimeConfig
open Foundation Billing

/-! ## Capabilities -/

/-- `Credentialed`. -/
def Startup.credentialed (c : Startup) : Bool := !c.qwenAPIKeys.isEmpty

/-- `MultimodalAvailable`. -/
def Startup.multimodalAvailable (c : Startup) : Bool := c.credentialed && c.mediaEnabled

/-- `ImageAvailable`. -/
def Startup.imageAvailable (c : Startup) : Bool := c.credentialed && c.imageEnabled

/-- `SpeechAvailable`. -/
def Startup.speechAvailable (c : Startup) : Bool := c.credentialed && c.speechEnabled

/-- `VideoAvailable`: the third half is the key that signs handles. -/
def Startup.videoAvailable (c : Startup) : Bool :=
  c.credentialed && c.videoEnabled && !c.videoHandleKey.isEmpty

/-- `VideoI2VAvailable`. -/
def Startup.videoI2VAvailable (c : Startup) : Bool :=
  c.videoAvailable && (newUnitPlan providerQwen c.videoI2VUpstreamModel .videoSeconds 1).isOk

/-- `VoiceAvailable`. -/
def Startup.voiceAvailable (c : Startup) : Bool := c.speechAvailable

end AnselmGateway.RuntimeConfig

namespace AnselmGateway.ModelCatalog
open Foundation Billing RuntimeConfig

/-! ## The list -/

/-- `RouteProfile`. -/
structure RouteProfile where
  inputLimit : ℤ
  outputLimit : ℤ
  available : Bool
  deriving DecidableEq

/-- `GenProfile`. -/
structure GenProfile where
  available : Bool
  dailyLimit : ℤ
  deriving DecidableEq

/-- `VideoGenProfile`. -/
structure VideoGenProfile where
  available : Bool
  dailyLimit : ℤ
  imageToVideo : Bool
  deriving DecidableEq

/-- `AnselmCapabilities`. -/
structure AnselmCapabilities where
  version : ℤ
  routing : String
  text : RouteProfile
  multimodal : RouteProfile
  imageGeneration : GenProfile
  speechGeneration : GenProfile
  videoGeneration : VideoGenProfile
  deriving DecidableEq

/-- `Model`. -/
structure Model where
  id : String
  object : String
  ownedBy : String
  anselmCapabilities : AnselmCapabilities
  deriving DecidableEq

/-- `ListEnvelope`. -/
structure ListEnvelope where
  object : String
  data : List Model
  deriving DecidableEq

/-- The capabilities of `Catalog.List`. -/
def capabilities (cfg : Config) : AnselmCapabilities where
  version := 1
  routing := "content"
  text := ⟨qwen37InputLimit.toInt, min cfg.maxTokensCap qwen37OutputLimit.toInt, cfg.credentialed⟩
  multimodal :=
    ⟨qwen37InputLimit.toInt, min cfg.maxTokensCap qwen37OutputLimit.toInt, cfg.multimodalAvailable⟩
  imageGeneration := ⟨cfg.imageAvailable, cfg.imageDailyLimit⟩
  speechGeneration := ⟨cfg.speechAvailable, cfg.speechDailyLimit⟩
  videoGeneration := ⟨cfg.videoAvailable, cfg.videoDailyLimit, cfg.videoI2VAvailable⟩

/-- `Catalog.List`: the one logical model, if it has a name. -/
def list (cfg : Config) : ListEnvelope where
  object := "list"
  data :=
    if cfg.publicModelID = "" then []
    else [⟨cfg.publicModelID, "model", "anselm-gateway", capabilities cfg⟩]

/-- `quotaCfgSource.Limits`. -/
def limits (c : Config) (wallet : 0 ≤ (Int64.ofInt c.globalMonthlySpendPUSD).toInt) : Quota.Limits where
  monthlyQuota := Int64.ofInt c.monthlyQuota
  globalMonthlySpendPUSD := Int64.ofInt c.globalMonthlySpendPUSD
  dailySublimit := Int64.ofInt c.dailySublimit
  imageDailyLimit := Int64.ofInt c.imageDailyLimit
  speechDailyLimit := Int64.ofInt c.speechDailyLimit
  videoDailyLimit := Int64.ofInt c.videoDailyLimit
  voiceDailyLimit := Int64.ofInt c.voiceDailyLimit
  wallet_nonneg := wallet

end AnselmGateway.ModelCatalog
