import AnselmGateway.Foundation.Float64
import AnselmGateway.RuntimeConfig

/-! The configuration as the dashboard shows it: `Dump` of `internal/domain/config`. Secrets
have no row. -/
namespace AnselmGateway.ConfigDump
open Foundation RuntimeConfig

/-- The tier of a row, without what an override of it does. -/
inductive TierName where
  | runtimeHot
  | startupHard
  deriving DecidableEq

/-- What a row of `Specs` has for the dashboard. -/
structure Surface where
  key : String
  tier : TierName
  restartRequired : Bool
  bounded : Bool
  min : ℤ
  max : ℤ
  get : Config → String

def text (key : String) (get : Config → String) : Surface := ⟨key, .runtimeHot, false, false, 0, 0, get⟩

/-- A numeric row: `strconv.Itoa`, `strconv.FormatInt` in base 10. -/
def number (key : String) (min max : ℤ) (get : Config → ℤ) : Surface :=
  ⟨key, .runtimeHot, false, true, min, max, fun c => toString (get c)⟩

/-- A numeric row that only a restart makes effective. -/
def restarting (key : String) (min max : ℤ) (get : Config → ℤ) : Surface :=
  { number key min max get with restartRequired := true }

def hard (key : String) (get : Config → String) : Surface := ⟨key, .startupHard, true, false, 0, 0, get⟩

/-- `strconv.FormatBool`. -/
def formatBool (b : Bool) : String := if b then "true" else "false"

/-- `Duration.Milliseconds`. -/
def milliseconds (d : ℤ) : ℤ := d.tdiv millisecond

/-- `Duration.Seconds`, in floating point. -/
def seconds (d : ℤ) : ℚ :=
  Float64.round (Float64.round (d.tdiv second) + Float64.round (Float64.round (d.tmod second) / 1000000000))

/-- The conversion to a 64-bit integer, toward zero. -/
def int64 (x : ℚ) : ℤ := x.num.tdiv x.den

/-- The editable rows of `Specs`. -/
def runtimeSurfaces : List Surface := [
  text "GATEWAY_MODE" fun c => c.runtimeMode,
  text "PUBLIC_MODEL_ID" fun c => c.publicModelID,
  number "GLOBAL_MONTHLY_SPEND_MICRO_USD" 1 maxMonthlySpendMicroUSD
    fun c => c.globalMonthlySpendPUSD.tdiv 1000000,
  number "MONTHLY_QUOTA" 1 maxMonthlyQuota fun c => c.monthlyQuota,
  number "MAX_TOKENS_CAP" 1 maxTokensCap fun c => c.maxTokensCap,
  number "INPUT_TOKEN_CAP" 0 maxInputTokenCap fun c => c.inputTokenCap,
  number "MAX_MESSAGES" 1 maxMessages fun c => c.maxMessages,
  number "MAX_MESSAGE_CHARS" 1 maxMessageChars fun c => c.maxMessageChars,
  number "MAX_MEDIA_PARTS" 1 maxMediaParts fun c => c.maxMediaParts,
  number "MAX_MEDIA_DECODED_BYTES" 1 maxMediaDecodedBytes fun c => c.maxMediaDecodedBytes,
  restarting "MAX_BODY_BYTES" minBodyBytes maxBodyBytesCeiling fun c => c.maxBodyBytes,
  restarting "N_GLOBAL_CONCURRENCY" 1 maxNGlobalConcurrency fun c => c.nGlobalConcurrency,
  number "RATE_PER_MIN" 0 maxRatePerMin fun c => c.ratePerMin,
  number "DAILY_SUBLIMIT" 0 maxDailySublimit fun c => c.dailySublimit,
  number "IMAGE_DAILY_LIMIT" 0 maxImageDailyLimit fun c => c.imageDailyLimit,
  number "VOICE_DAILY_LIMIT" 0 maxVoiceDailyLimit fun c => c.voiceDailyLimit,
  number "VOICE_ACCOUNT_CEILING" 0 maxVoiceAccountCeiling fun c => c.voiceAccountCeiling,
  number "SPEECH_DAILY_LIMIT" 0 maxSpeechDailyLimit fun c => c.speechDailyLimit,
  number "VIDEO_DAILY_LIMIT" 0 maxVideoDailyLimit fun c => c.videoDailyLimit,
  number "INSTALL_PER_IP_HOUR" 0 maxInstallPerIPHour fun c => c.installPerIPHour,
  number "INSTALL_GLOBAL_DAILY_CAP" 0 maxInstallGlobalDailyCap fun c => c.installGlobalDailyCap,
  number "INSTALL_PER_FP_DAILY" 0 maxInstallPerFPDaily fun c => c.installPerFPDaily,
  number "INSTALL_PER_FP_COOLDOWN_SEC" 0 maxInstallPerFPCooldownSec fun c => c.installPerFPCooldownSec,
  text "INSTALL_POW_MODE" fun c => c.installPowMode,
  number "INSTALL_POW_DIFFICULTY" 1 maxInstallPowDifficulty fun c => c.installPowDifficulty,
  number "TOKEN_ANOMALY_RPM" 0 maxTokenAnomalyRPM fun c => c.tokenAnomalyRPM,
  number "TOKEN_THROTTLE_FACTOR" 1 maxTokenThrottleFactor fun c => c.tokenThrottleFactor,
  number "TOKEN_THROTTLE_COOLDOWN_SEC" 1 maxTokenThrottleCooldownSec fun c => c.tokenThrottleCooldownSec,
  number "QUEUE_WAIT_MS" 0 maxQueueWaitMS fun c => milliseconds c.queueWait,
  number "UPSTREAM_HEADER_TIMEOUT_SEC" 1 maxUpstreamHeaderTimeoutSec
    fun c => int64 (seconds c.upstreamHeaderTimeout),
  number "DISK_MIN_MB" 0 maxDiskMinMB fun c => c.diskMinMB,
  number "DISK_MIN_PERCENT" 0 100 fun c => c.diskMinPercent]

/-- The read-only rows. -/
def startupSurfaces : List Surface := [
  hard "MULTIMODAL_UPSTREAM_MODEL" fun c => c.multimodalUpstreamModel,
  hard "IMAGE_ENABLED" fun c => formatBool c.imageEnabled,
  hard "IMAGE_UPSTREAM_MODEL" fun c => c.imageUpstreamModel,
  hard "SPEECH_ENABLED" fun c => formatBool c.speechEnabled,
  hard "TTS_UPSTREAM_MODEL" fun c => c.ttsUpstreamModel,
  hard "MEDIA_DOMAIN" fun c => c.mediaFetchDomain,
  hard "TTS_DEFAULT_VOICE" fun c => c.ttsDefaultVoice,
  hard "VIDEO_ENABLED" fun c => formatBool c.videoEnabled,
  hard "VIDEO_UPSTREAM_MODEL" fun c => c.videoUpstreamModel,
  hard "VIDEO_I2V_UPSTREAM_MODEL" fun c => c.videoI2VUpstreamModel,
  hard "DASHSCOPE_NATIVE_BASE" fun c => c.dashScopeNativeBase,
  hard "DASHSCOPE_BASE_URL" fun c => c.qwenBaseURL,
  hard "GOMEMLIMIT_MIB" fun c => toString c.goMemLimitMiB,
  hard "SQLITE_CACHE_KIB" fun c => toString c.sqliteCacheKiB,
  hard "READ_POOL_MAX_CONNS" fun c => toString c.readPoolMaxConns,
  hard "SQLITE_MMAP_MB" fun c => toString (c.sqliteMmapBytes.tdiv (1024 * 1024)),
  hard "ADMIN_ADDR" fun c => c.adminAddr,
  hard "DASHBOARD_ADDR" fun c => c.dashboardAddr,
  hard "LISTEN_ADDR" fun c => c.listenAddr,
  hard "RESET_TZ" fun c => c.resetTZ,
  hard "GATEWAY_DB_PATH" fun c => c.dbPath]

def surfaces : List Surface := runtimeSurfaces ++ startupSurfaces

def tierName : Tier → TierName
  | .runtimeHot _ => .runtimeHot
  | .startupHard => .startupHard

/-- They are the rows of the registry. -/
theorem surfaces_specs : surfaces.map (fun surface => (surface.key, surface.tier)) =
    specs.map fun spec => (spec.key, tierName spec.tier) := (rfl)

/-- `DumpItem`. -/
structure DumpItem where
  key : String
  value : String
  tier : TierName
  editable : Bool
  restartRequired : Bool
  bounded : Bool
  min : ℤ
  max : ℤ
  deriving DecidableEq

/-- `Dump`. -/
def dump (c : Config) : List DumpItem := surfaces.map fun s => {
  key := s.key
  value := s.get c
  tier := s.tier
  editable := decide (s.tier = .runtimeHot)
  restartRequired := s.restartRequired
  bounded := s.bounded
  min := s.min
  max := s.max }

/-- The values it shows for the editable rows. -/
def editableValues (c : Config) : List (String × String) :=
  ((dump c).filter DumpItem.editable).map fun item => (item.key, item.value)

theorem editableValues_eq (c : Config) :
    editableValues c = runtimeSurfaces.map fun s => (s.key, s.get c) := (rfl)

theorem runtimeSurfaces_nodup : (runtimeSurfaces.map Surface.key).Nodup := by decide +kernel

/-- They are a batch of overrides. -/
def dumped (c : Config) : Overrides := ⟨editableValues c, by
  rw [editableValues_eq, List.map_map]
  exact runtimeSurfaces_nodup⟩

end AnselmGateway.ConfigDump
