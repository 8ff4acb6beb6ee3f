import Mathlib.Data.List.Sort
import AnselmGateway.Billing
import AnselmGateway.Foundation.Clock
import AnselmGateway.Foundation.Overlay
import AnselmGateway.Upstream

/-! The runtime configuration of `internal/domain/config`: its cross-field checks, the
registry of overridable keys, the pure override of a batch, and the mask of debug mode. -/
namespace AnselmGateway.RuntimeConfig
open Foundation Billing

/-! ## Ceilings -/

def maxMonthlyQuota : ℤ := 1000000000
def maxPublicModelIDBytes : ℕ := 128
def maxMonthlySpendMicroUSD : ℤ := 9000000000000
def maxTokensCap : ℤ := 1000000
def maxInputTokenCap : ℤ := 10000000
def maxMessages : ℤ := 100000
def maxMessageChars : ℤ := 16 * 1024 * 1024
def maxMediaParts : ℤ := 64
def maxMediaDecodedBytes : ℤ := 8 * 1024 * 1024
def maxBodyBytesCeiling : ℤ := 8 * 1024 * 1024
def minBodyBytes : ℤ := 4 * 1024
def maxNGlobalConcurrency : ℤ := 100000
def maxRatePerMin : ℤ := 10000000
def maxDailySublimit : ℤ := 1000000000
def maxImageDailyLimit : ℤ := 100000
def maxVoiceAccountCeiling : ℤ := 1000000
def maxSpeechDailyLimit : ℤ := 100000000
def maxVideoDailyLimit : ℤ := 10000
def maxVoiceDailyLimit : ℤ := 100
def maxInstallPerIPHour : ℤ := 1000000
def maxInstallGlobalDailyCap : ℤ := 100000000
def maxInstallPerFPDaily : ℤ := 1000000
def maxInstallPerFPCooldownSec : ℤ := 86400
def maxInstallPowDifficulty : ℤ := 32
def maxTokenAnomalyRPM : ℤ := 10000000
def maxTokenThrottleFactor : ℤ := 1000
def maxTokenThrottleCooldownSec : ℤ := 86400
def maxQueueWaitMS : ℤ := 60000
def maxUpstreamHeaderTimeoutSec : ℤ := 600
def maxDiskMinMB : ℤ := 1024 * 1024 * 1024
def maxMediaUploadBytes : ℤ := 1024 * 1024 * 1024

def picoUSDPerMicroUSD : ℤ := 1000000

/-- `time.Millisecond`. -/
def millisecond : ℤ := 1000000

def powModeOff : String := "off"
def powModeShadow : String := "shadow"
def powModeEnforce : String := "enforce"
def runtimeModeDebug : String := "debug"
def runtimeModeProduction : String := "production"

/-! ## The configuration -/

/-- What no override reaches: the secrets, and all that is read once at the start.
`Location` is left out, it is what `resetTZ` names. -/
structure Startup where
  qwenAPIKeys : List String
  qwenBaseURL : String
  multimodalUpstreamModel : String
  installPowSecret : Bytes
  installPowSecretSource : String
  goMemLimitMiB : ℤ
  sqliteCacheKiB : ℤ
  sqliteMmapBytes : ℤ
  sqliteAutockptPage : ℤ
  readPoolMaxConns : ℤ
  memBudgetMiB : ℤ
  memSafetyMarginMiB : ℤ
  dashScopeNativeBase : String
  imageEnabled : Bool
  imageUpstreamModel : String
  speechEnabled : Bool
  ttsUpstreamModel : String
  ttsDefaultVoice : String
  videoEnabled : Bool
  videoUpstreamModel : String
  videoI2VUpstreamModel : String
  videoHandleKey : Bytes
  mediaEnabled : Bool
  mediaStagingRoot : String
  mediaSigningSecret : Bytes
  mediaSigningSecretSource : String
  mediaUploadMaxBytes : ℤ
  mediaChunkMaxBytes : ℤ
  mediaUploadTTL : ℤ
  mediaLeaseTTL : ℤ
  mediaFetchDomain : String
  resetTZ : String
  listenAddr : String
  adminAddr : String
  dashboardAddr : String
  logLevel : String
  dbPath : String
  deriving DecidableEq

/-- `Config`. Every number below is within its ceiling once it has passed the
registry, far from the ends of its type. -/
structure Config extends Startup where
  runtimeMode : String
  publicModelID : String
  globalMonthlySpendPUSD : ℤ
  monthlyQuota : ℤ
  maxTokensCap : ℤ
  inputTokenCap : ℤ
  maxMessages : ℤ
  maxMessageChars : ℤ
  maxMediaParts : ℤ
  maxMediaDecodedBytes : ℤ
  maxBodyBytes : ℤ
  nGlobalConcurrency : ℤ
  ratePerMin : ℤ
  dailySublimit : ℤ
  imageDailyLimit : ℤ
  voiceDailyLimit : ℤ
  voiceAccountCeiling : ℤ
  speechDailyLimit : ℤ
  videoDailyLimit : ℤ
  installPerIPHour : ℤ
  installGlobalDailyCap : ℤ
  installPerFPDaily : ℤ
  installPerFPCooldownSec : ℤ
  installPowMode : String
  installPowDifficulty : ℤ
  tokenAnomalyRPM : ℤ
  tokenThrottleFactor : ℤ
  tokenThrottleCooldownSec : ℤ
  queueWait : ℤ
  upstreamHeaderTimeout : ℤ
  diskMinMB : ℤ
  diskMinPercent : ℤ
  deriving DecidableEq

/-- An error, with the operand it quotes or the error it wraps. -/
inductive ConfigError where
  | text (message : String)
  | quoting (before operand behind : String)
  | wrapping (context : String) (cause : BillingError)
  deriving DecidableEq

/-- `EffectiveLimits`: debug mode opens what rations a user, and nothing that
protects the process. -/
def Config.effectiveLimits (c : Config) : Config :=
  if c.runtimeMode ≠ runtimeModeDebug then c
  else { c with
    monthlyQuota := maxMonthlyQuota
    globalMonthlySpendPUSD := maxMonthlySpendMicroUSD * picoUSDPerMicroUSD
    ratePerMin := 0
    dailySublimit := 0
    tokenAnomalyRPM := 0
    imageDailyLimit := 0
    speechDailyLimit := 0
    videoDailyLimit := 0
    voiceDailyLimit := 0
    installPerIPHour := 0
    installGlobalDailyCap := 0
    installPerFPDaily := 0
    installPerFPCooldownSec := 0
    installPowMode := powModeOff }

/-! ## Cross-field checks -/

def refuseIf (refused : Bool) (message : String) : Except ConfigError Unit :=
  if refused then .error (.text message) else .ok ()

/-- A model that must have a card. -/
def requireCard (context : String) : Except BillingError Plan → Except ConfigError Plan
  | .ok plan => .ok plan
  | .error cause => .error (.wrapping context cause)

/-- `ValidateRuntimeMode`. -/
def validateRuntimeMode (m : String) : Except ConfigError Unit :=
  if m = runtimeModeDebug ∨ m = runtimeModeProduction then .ok ()
  else .error (.quoting "GATEWAY_MODE " m " invalid: must be one of debug|production")

/-- `ValidatePowMode`. -/
def validatePowMode (m : String) : Except ConfigError Unit :=
  if m = powModeOff ∨ m = powModeShadow ∨ m = powModeEnforce then .ok ()
  else .error (.quoting "INSTALL_POW_MODE " m " invalid: must be one of off|shadow|enforce")

/-- `validatePowSecretPresent`. -/
def validatePowSecretPresent (mode : String) (secret : Bytes) : Except ConfigError Unit :=
  if mode ≠ powModeShadow ∧ mode ≠ powModeEnforce then .ok ()
  else refuseIf secret.isEmpty
    ("CONFIG_POW_SECRET_REQUIRED: INSTALL_POW_MODE " ++ mode ++
      " requires INSTALL_POW_SECRET (env-only); set it and restart before enabling PoW")

/-- `validPublicModelID`. -/
def validPublicModelID (id : String) : Bool :=
  let bytes := utf8 id
  decide (bytes ≠ []) && decide (bytes.length ≤ maxPublicModelIDBytes) && bytes.all fun b =>
    (decide (97 ≤ b) && decide (b ≤ 122)) || (decide (65 ≤ b) && decide (b ≤ 90)) ||
      (decide (48 ≤ b) && decide (b ≤ 57)) || (utf8 "._-:/").contains b

/-- The block of `ValidateSemantics` under `ImageEnabled`. -/
def Startup.validateImage (c : Startup) : Except ConfigError Unit := do
  refuseIf c.qwenAPIKeys.isEmpty "SEC-2 config: IMAGE_ENABLED requires DASHSCOPE_API_KEY"
  let _ ← requireCard "SEC-2 config: IMAGE_UPSTREAM_MODEL has no exact rate card"
    (newUnitPlan providerQwen c.imageUpstreamModel .images 1)
  refuseIf (blank c.dashScopeNativeBase) "SEC-2 config: IMAGE_ENABLED requires DASHSCOPE_NATIVE_BASE"

/-- The block under `SpeechEnabled`. -/
def Startup.validateSpeech (c : Startup) : Except ConfigError Unit := do
  refuseIf c.qwenAPIKeys.isEmpty "SEC-2 config: SPEECH_ENABLED requires DASHSCOPE_API_KEY"
  let _ ← requireCard "SEC-2 config: TTS_UPSTREAM_MODEL has no exact rate card"
    (newUnitPlan providerQwen c.ttsUpstreamModel .characters 1)
  refuseIf (blank c.dashScopeNativeBase) "SEC-2 config: SPEECH_ENABLED requires DASHSCOPE_NATIVE_BASE"
  refuseIf (blank c.ttsDefaultVoice) "SEC-2 config: SPEECH_ENABLED requires TTS_DEFAULT_VOICE"

/-- The block over a given `MediaFetchDomain`. -/
def validateMediaDomain (d : String) : Except ConfigError Unit := do
  refuseIf (decide ("://".toList <:+: d.toList) || d.toList.any fun c => "/?#".toList.contains c)
    "CONFIG_MEDIA_DOMAIN_INVALID: MEDIA_DOMAIN must be a bare host, not a URL"
  refuseIf (decide ("api.".toList <+: d.toList))
    ("CONFIG_MEDIA_DOMAIN_INVALID: MEDIA_DOMAIN must not be an `api.` host — " ++
      "the upstream fetcher blacklists that shape at its edge (ADR 0018/0012)")

/-- The block under `VideoEnabled`. -/
def Startup.validateVideo (c : Startup) : Except ConfigError Unit := do
  refuseIf c.qwenAPIKeys.isEmpty "SEC-2 config: VIDEO_ENABLED requires DASHSCOPE_API_KEY"
  let _ ← requireCard "SEC-2 config: VIDEO_UPSTREAM_MODEL has no exact rate card"
    (newUnitPlan providerQwen c.videoUpstreamModel .videoSeconds 1)
  let _ ← requireCard "SEC-2 config: VIDEO_I2V_UPSTREAM_MODEL has no exact rate card"
    (newUnitPlan providerQwen c.videoI2VUpstreamModel .videoSeconds 1)
  refuseIf (blank c.dashScopeNativeBase) "SEC-2 config: VIDEO_ENABLED requires DASHSCOPE_NATIVE_BASE"
  refuseIf c.videoHandleKey.isEmpty
    ("CONFIG_VIDEO_HANDLE_KEY_REQUIRED: VIDEO_ENABLED requires MEDIA_SIGNING_SECRET " ++
      "(the video handle key is derived from it)")

/-- The block under `MediaEnabled`. -/
def Config.validateMedia (c : Config) : Except ConfigError Unit := do
  refuseIf (blank c.mediaStagingRoot) "SEC-2 config: MEDIA_ENABLED requires MEDIA_STAGING_ROOT"
  refuseIf (c.mediaSigningSecret.length < 32)
    ("CONFIG_MEDIA_SIGNING_SECRET_REQUIRED: MEDIA_ENABLED requires MEDIA_SIGNING_SECRET " ++
      "with at least 32 bytes (env-only)")
  refuseIf (c.mediaUploadMaxBytes ≤ 0 || c.mediaUploadMaxBytes > maxMediaUploadBytes)
    "SEC-2 config: MEDIA_UPLOAD_MAX_BYTES out of range"
  refuseIf (c.mediaChunkMaxBytes ≤ 0 || c.mediaChunkMaxBytes > c.maxBodyBytes ||
      c.mediaChunkMaxBytes > c.mediaUploadMaxBytes)
    ("SEC-2 config: MEDIA_CHUNK_MAX_BYTES must be > 0 and <= both MAX_BODY_BYTES " ++
      "and MEDIA_UPLOAD_MAX_BYTES")
  refuseIf (c.mediaUploadTTL ≤ 0 || c.mediaLeaseTTL ≤ 0) "SEC-2 config: media TTLs must be positive"

/-- `ValidateSemantics`. -/
def Config.validateSemantics (c : Config) : Except ConfigError Unit := do
  refuseIf (c.globalMonthlySpendPUSD ≤ 0)
    "SEC-2 config: GLOBAL_MONTHLY_SPEND_MICRO_USD must be > 0"
  refuseIf (!validPublicModelID c.publicModelID)
    ("SEC-2 config: PUBLIC_MODEL_ID must be 1.." ++ toString maxPublicModelIDBytes ++
      " ASCII bytes using letters, digits, '.', '_', '-', ':', or '/'")
  let plan ← requireCard "SEC-2 config: MULTIMODAL_UPSTREAM_MODEL has no exact rate card"
    (newPlan providerQwen c.multimodalUpstreamModel .standard qwen37InputLimit qwen37OutputLimit)
  refuseIf (plan.reservedPUSD.toInt > c.globalMonthlySpendPUSD)
    "SEC-2 config: worst-case request quote exceeds GLOBAL_MONTHLY_SPEND_MICRO_USD"
  refuseIf (c.maxMediaParts < 1 || c.maxMediaParts > AnselmGateway.RuntimeConfig.maxMediaParts)
    "SEC-2 config: MAX_MEDIA_PARTS out of range"
  refuseIf (c.maxMediaDecodedBytes < 1 || c.maxMediaDecodedBytes > c.maxBodyBytes)
    "SEC-2 config: MAX_MEDIA_DECODED_BYTES must be > 0 and <= MAX_BODY_BYTES"
  if c.imageEnabled then c.validateImage
  if c.speechEnabled then c.validateSpeech
  if !blank c.mediaFetchDomain then validateMediaDomain (trimSpace c.mediaFetchDomain)
  if c.videoEnabled then c.validateVideo
  if c.mediaEnabled then c.validateMedia
  validatePowSecretPresent c.installPowMode c.installPowSecret
  if c.runtimeMode ≠ "" then validateRuntimeMode c.runtimeMode

/-! ## The registry -/

/-- `Tier`: a hot key comes with its `apply`, a hard one has none. -/
inductive Tier where
  | runtimeHot (apply : Config → String → Except ConfigError Config)
  | startupHard

structure Spec where
  key : String
  tier : Tier

/-- `BoundInt64` and `BoundInt`. -/
def boundInt (name : String) (v min max : ℤ) : Except ConfigError Unit :=
  if v < min then .error (.text (name ++ " must be >= " ++ toString min))
  else if v > max then .error (.text (name ++ " must be <= " ++ toString max))
  else .ok ()

/-- `reqInt64` and `reqInt`: both types have 64 bits. -/
def reqInt (name raw : String) (min max : ℤ) : Except ConfigError ℤ :=
  match Upstream.atoi (trimSpace raw) with
  | none => .error (.quoting (name ++ ": invalid int ") raw "")
  | some n => (boundInt name n min max).map fun _ => n

/-- The shape of every numeric row. -/
def bounded (key : String) (min max : ℤ) (set : ℤ → Config → Config) : Spec :=
  ⟨key, .runtimeHot fun c raw => (reqInt key raw min max).map fun n => set n c⟩

def applyGatewayMode (c : Config) (raw : String) : Except ConfigError Config :=
  let m := trimSpace raw
  (validateRuntimeMode m).map fun _ => { c with runtimeMode := m }

def applyPublicModelID (c : Config) (raw : String) : Except ConfigError Config :=
  let id := trimSpace raw
  if id = "" then .error (.text "PUBLIC_MODEL_ID must not be empty")
  else .ok { c with publicModelID := id }

/-- The secret is the one the configuration has, an override cannot bring it. -/
def applyInstallPowMode (c : Config) (raw : String) : Except ConfigError Config :=
  let m := trimSpace raw
  match validatePowMode m with
  | .error error => .error error
  | .ok () => (validatePowSecretPresent m c.installPowSecret).map fun _ => { c with installPowMode := m }

/-- The editable rows of `Specs`. -/
def runtimeSpecs : List Spec := [
  ⟨"GATEWAY_MODE", .runtimeHot applyGatewayMode⟩,
  ⟨"PUBLIC_MODEL_ID", .runtimeHot applyPublicModelID⟩,
  bounded "GLOBAL_MONTHLY_SPEND_MICRO_USD" 1 maxMonthlySpendMicroUSD
    fun n c => { c with globalMonthlySpendPUSD := n * 1000000 },
  bounded "MONTHLY_QUOTA" 1 maxMonthlyQuota fun n c => { c with monthlyQuota := n },
  bounded "MAX_TOKENS_CAP" 1 maxTokensCap fun n c => { c with maxTokensCap := n },
  bounded "INPUT_TOKEN_CAP" 0 maxInputTokenCap fun n c => { c with inputTokenCap := n },
  bounded "MAX_MESSAGES" 1 maxMessages fun n c => { c with maxMessages := n },
  bounded "MAX_MESSAGE_CHARS" 1 maxMessageChars fun n c => { c with maxMessageChars := n },
  bounded "MAX_MEDIA_PARTS" 1 maxMediaParts fun n c => { c with maxMediaParts := n },
  bounded "MAX_MEDIA_DECODED_BYTES" 1 maxMediaDecodedBytes
    fun n c => { c with maxMediaDecodedBytes := n },
  bounded "MAX_BODY_BYTES" minBodyBytes maxBodyBytesCeiling fun n c => { c with maxBodyBytes := n },
  bounded "N_GLOBAL_CONCURRENCY" 1 maxNGlobalConcurrency fun n c => { c with nGlobalConcurrency := n },
  bounded "RATE_PER_MIN" 0 maxRatePerMin fun n c => { c with ratePerMin := n },
  bounded "DAILY_SUBLIMIT" 0 maxDailySublimit fun n c => { c with dailySublimit := n },
  bounded "IMAGE_DAILY_LIMIT" 0 maxImageDailyLimit fun n c => { c with imageDailyLimit := n },
  bounded "VOICE_DAILY_LIMIT" 0 maxVoiceDailyLimit fun n c => { c with voiceDailyLimit := n },
  bounded "VOICE_ACCOUNT_CEILING" 0 maxVoiceAccountCeiling
    fun n c => { c with voiceAccountCeiling := n },
  bounded "SPEECH_DAILY_LIMIT" 0 maxSpeechDailyLimit fun n c => { c with speechDailyLimit := n },
  bounded "VIDEO_DAILY_LIMIT" 0 maxVideoDailyLimit fun n c => { c with videoDailyLimit := n },
  bounded "INSTALL_PER_IP_HOUR" 0 maxInstallPerIPHour fun n c => { c with installPerIPHour := n },
  bounded "INSTALL_GLOBAL_DAILY_CAP" 0 maxInstallGlobalDailyCap
    fun n c => { c with installGlobalDailyCap := n },
  bounded "INSTALL_PER_FP_DAILY" 0 maxInstallPerFPDaily fun n c => { c with installPerFPDaily := n },
  bounded "INSTALL_PER_FP_COOLDOWN_SEC" 0 maxInstallPerFPCooldownSec
    fun n c => { c with installPerFPCooldownSec := n },
  ⟨"INSTALL_POW_MODE", .runtimeHot applyInstallPowMode⟩,
  bounded "INSTALL_POW_DIFFICULTY" 1 maxInstallPowDifficulty
    fun n c => { c with installPowDifficulty := n },
  bounded "TOKEN_ANOMALY_RPM" 0 maxTokenAnomalyRPM fun n c => { c with tokenAnomalyRPM := n },
  bounded "TOKEN_THROTTLE_FACTOR" 1 maxTokenThrottleFactor
    fun n c => { c with tokenThrottleFactor := n },
  bounded "TOKEN_THROTTLE_COOLDOWN_SEC" 1 maxTokenThrottleCooldownSec
    fun n c => { c with tokenThrottleCooldownSec := n },
  bounded "QUEUE_WAIT_MS" 0 maxQueueWaitMS fun n c => { c with queueWait := n * millisecond },
  bounded "UPSTREAM_HEADER_TIMEOUT_SEC" 1 maxUpstreamHeaderTimeoutSec
    fun n c => { c with upstreamHeaderTimeout := n * second },
  bounded "DISK_MIN_MB" 0 maxDiskMinMB fun n c => { c with diskMinMB := n },
  bounded "DISK_MIN_PERCENT" 0 100 fun n c => { c with diskMinPercent := n }]

/-- The read-only rows of `Specs`. -/
def startupKeys : List String := [
  "MULTIMODAL_UPSTREAM_MODEL", "IMAGE_ENABLED", "IMAGE_UPSTREAM_MODEL", "SPEECH_ENABLED",
  "TTS_UPSTREAM_MODEL", "MEDIA_DOMAIN", "TTS_DEFAULT_VOICE", "VIDEO_ENABLED", "VIDEO_UPSTREAM_MODEL",
  "VIDEO_I2V_UPSTREAM_MODEL", "DASHSCOPE_NATIVE_BASE", "DASHSCOPE_BASE_URL", "GOMEMLIMIT_MIB",
  "SQLITE_CACHE_KIB", "READ_POOL_MAX_CONNS", "SQLITE_MMAP_MB", "ADMIN_ADDR", "DASHBOARD_ADDR",
  "LISTEN_ADDR", "RESET_TZ", "GATEWAY_DB_PATH"]

/-- `Specs`. -/
def specs : List Spec := runtimeSpecs ++ startupKeys.map fun key => ⟨key, .startupHard⟩

/-- `applyOne`. Secrets are not in the registry. -/
def applyOne (c : Config) (key raw : String) : Except ConfigError Config :=
  match specs.find? fun spec => spec.key = key with
  | none => .error (.text (key ++
      ": not a runtime-overridable setting (unknown or secret; secrets are env-only)"))
  | some ⟨_, .startupHard⟩ => .error (.text (key ++
      ": startup hard-constraint — change requires a restart, not hot-reload"))
  | some ⟨_, .runtimeHot apply⟩ => apply c raw

/-- A `map[string]string`, in the order in which an iteration happens to go over it. -/
structure Overrides where
  entries : List (String × String)
  unique : (entries.map Prod.fst).Nodup

/-- The loop of `ApplyOverrides` over the sorted keys. -/
def applyEach : List (String × String) → Config → Except ConfigError Config :=
  replayLog fun key raw c => applyOne c key raw

/-- `ApplyOverrides`. -/
def applyOverrides (base : Config) (overrides : Overrides) : Except ConfigError Config := do
  let c ← applyEach (overrides.entries.insertionSort fun a b => a.1 ≤ b.1) base
  c.validateSemantics
  return c

end AnselmGateway.RuntimeConfig
