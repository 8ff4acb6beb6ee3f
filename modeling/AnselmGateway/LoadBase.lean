import AnselmGateway.Foundation.Float64
import AnselmGateway.Foundation.IPAddress
import AnselmGateway.Foundation.Reading
import AnselmGateway.RuntimeConfig
import AnselmGateway.VideoHandle

/-! The configuration a start reads from its environment: `LoadBase` of
`internal/infra/configprovider`, with the checks it makes on the way. The URL parser, the
time-zone database and the MAC answer from outside. -/
namespace AnselmGateway.LoadBase
open Foundation Billing RuntimeConfig

/-- `os.Getenv`. -/
abbrev Environment := String → String

/-- `url.URL`, in what is asked of it. -/
structure URL where
  scheme : String
  host : String
  hostname : String
  hasUser : Bool
  rawQuery : String
  fragment : String

/-- What the process takes from around it. -/
structure Platform where
  parseURL : String → Option URL
  zoneExists : String → Bool
  hmac : LeaseSigner.Hmac

/-- Why no configuration comes out. An unknown time zone stops the process. -/
inductive LoadError where
  | qwenKeyRequired
  | setting (error : ConfigError)
  | memoryBudget (worstMiB goMemLimit cacheMiB readPool mmapMiB budgetMiB safetyMiB ceilingMiB : ℤ)
  | sharedListener (name address other otherAddress : String)
  | panicked (zone : String)
  deriving DecidableEq

/-! ## The reader -/

abbrev EnvReader := Reading String String LoadError

/-- `fail`. -/
def fail (message : String) : EnvReader Unit := .report [.setting (.text message)]

/-- `failErr`, and nothing without an error. -/
def failErr : Except ConfigError Unit → EnvReader Unit
  | .ok () => .report []
  | .error error => .report [.setting error]

def str (key default_ : String) : EnvReader String := fun getenv =>
  (if trimSpace (getenv key) = "" then default_ else trimSpace (getenv key), [])

/-- `int` and `int64`: both types have 64 bits. -/
def int (key : String) (default_ : ℤ) : EnvReader ℤ := fun getenv =>
  if trimSpace (getenv key) = "" then (default_, [])
  else match Upstream.atoi (trimSpace (getenv key)) with
    | none => (default_, [.setting (.quoting (key ++ ": invalid int ") (trimSpace (getenv key)) "")])
    | some n => (n, [])

/-- `strconv.ParseBool`. -/
def parseBool (text : String) : Option Bool :=
  if text ∈ ["1", "t", "T", "TRUE", "true", "True"] then some true
  else if text ∈ ["0", "f", "F", "FALSE", "false", "False"] then some false
  else none

def boolean (key : String) (default_ : Bool) : EnvReader Bool := fun getenv =>
  if trimSpace (getenv key) = "" then (default_, [])
  else match parseBool (trimSpace (getenv key)) with
    | none => (default_, [.setting (.quoting (key ++ ": invalid bool ") (trimSpace (getenv key)) "")])
    | some b => (b, [])

/-- `boundedInt` and `boundedInt64`. -/
def boundedInt (key : String) (default_ min max : ℤ) : EnvReader ℤ := do
  let n ← int key default_
  failErr (boundInt key n min max)
  return n

section
variable (getenv : Environment)

@[simp] theorem passes_str (key default_ : String) : (str key default_).Passes getenv := rfl

@[simp] theorem passes_failErr (checked : Except ConfigError Unit) :
    (failErr checked).Passes getenv ↔ checked = .ok () := by
  cases checked with
  | ok _ => exact ⟨fun _ => rfl, fun _ => rfl⟩
  | error error =>
    refine ⟨fun passes => ?_, nofun⟩
    cases passes

@[simp] theorem value_boundedInt (key : String) (default_ min max : ℤ) :
    (boundedInt key default_ min max).value getenv = (int key default_).value getenv := by
  simp only [boundedInt, Reading.value_bind, Reading.value_pure]

theorem passes_boundedInt (key : String) (default_ min max : ℤ) :
    (boundedInt key default_ min max).Passes getenv ↔ (int key default_).Passes getenv ∧
      boundInt key ((int key default_).value getenv) min max = .ok () := by
  simp only [boundedInt, Reading.passes_bind, Reading.passes_pure, passes_failErr, and_true]

end

/-! ## Addresses and paths -/

/-- `strings.TrimRight` of slashes. -/
def trimRightSlashes (text : String) : String :=
  String.ofList (text.toList.reverse.dropWhile (· == '/')).reverse

/-- `strings.TrimSuffix`. -/
def trimSuffix (text suffix : String) : String :=
  if suffix.toList <:+ text.toList then String.ofList (text.toList.take (text.length - suffix.length))
  else text

/-- `AllowsCredentialTransport`. -/
def allowsCredentialTransport (u : URL) : Bool :=
  if u.host = "" ∨ u.hostname = "" then false
  else if toLower id u.scheme = "https" then true
  else if toLower id u.scheme = "http" then
    match IPAddress.parseIP (utf8 u.hostname) with
    | some ip => IPAddress.isLoopback ip
    | none => false
  else false

/-- `validateHTTPBaseURL`. -/
def validateHTTPBaseURL (platform : Platform) (name value : String) : EnvReader Unit :=
  let refused := match platform.parseURL value with
    | none => true
    | some u => decide (u.host = "") || u.hasUser || decide (u.rawQuery ≠ "") ||
        decide (u.fragment ≠ "") || !allowsCredentialTransport u
  if refused then fail (name ++ " must be an absolute HTTPS base URL without userinfo, query, or " ++
    "fragment (HTTP is allowed only for a literal loopback IP)")
  else pure ()

/-- `validWorkspaceID`. -/
def validWorkspaceID (id : String) : Bool :=
  let bytes := utf8 id
  decide (bytes ≠ []) && decide (bytes.length ≤ 128) && bytes.all fun b =>
    (decide (97 ≤ b) && decide (b ≤ 122)) || (decide (65 ≤ b) && decide (b ≤ 90)) ||
      (decide (48 ≤ b) && decide (b ≤ 57)) || (utf8 "_-").contains b

/-- `qwenBaseURL`. -/
def qwenBaseURL (platform : Platform) : EnvReader String := do
  let raw ← str "DASHSCOPE_BASE_URL" ""
  let workspace ← str "DASHSCOPE_WORKSPACE_ID" ""
  let credential ← str "DASHSCOPE_API_KEY" ""
  if raw ≠ "" then
    validateHTTPBaseURL platform "DASHSCOPE_BASE_URL" (trimRightSlashes raw)
    return trimRightSlashes raw
  if workspace = "" then
    if credential ≠ "" then
      fail "DASHSCOPE_API_KEY requires DASHSCOPE_WORKSPACE_ID or DASHSCOPE_BASE_URL"
    return ""
  if !validWorkspaceID workspace then
    fail "DASHSCOPE_WORKSPACE_ID must be 1..128 ASCII letters, digits, '_' or '-'"
    return ""
  return "https://" ++ workspace ++ ".ap-southeast-1.maas.aliyuncs.com/compatible-mode/v1"

/-- `nativeBaseFrom`. -/
def nativeBaseFrom (qwenBase : String) : String :=
  let u := trimRightSlashes (trimSuffix (trimRightSlashes (trimSpace qwenBase)) "/compatible-mode/v1")
  if u = "" then "https://dashscope-intl.aliyuncs.com" else u

/-- The element `filepath.Clean` comes to next: `..` takes the one before it away. -/
def cleanElement (rooted : Bool) (kept : List String) (element : String) : List String :=
  if element = "" ∨ element = "." then kept
  else if element ≠ ".." then kept ++ [element]
  else match kept.getLast? with
    | none => if rooted then [] else [".."]
    | some last => if last = ".." then kept ++ [".."] else kept.dropLast

/-- `filepath.Clean`. -/
def clean (path : String) : String :=
  let rooted := decide ("/".toList <+: path.toList)
  let elements := (path.toList.splitOn '/').map String.ofList
  let kept := "/".intercalate (elements.foldl (cleanElement rooted) [])
  if rooted then "/" ++ kept else if kept = "" then "." else kept

/-- `filepath.Dir`. -/
def dir (path : String) : String :=
  clean (String.ofList (path.toList.reverse.dropWhile (· != '/')).reverse)

/-- `filepath.Join` of the database's directory. -/
def mediaRootBeside (dbPath : String) : String := clean (dir dbPath ++ "/" ++ "anselm-media")

/-! ## The settings, in the order they are read -/

/-- `config.Config{}`. -/
def zero : Config where
  qwenAPIKeys := []
  qwenBaseURL := ""
  multimodalUpstreamModel := ""
  installPowSecret := []
  installPowSecretSource := ""
  goMemLimitMiB := 0
  sqliteCacheKiB := 0
  sqliteMmapBytes := 0
  sqliteAutockptPage := 0
  readPoolMaxConns := 0
  memBudgetMiB := 0
  memSafetyMarginMiB := 0
  dashScopeNativeBase := ""
  imageEnabled := false
  imageUpstreamModel := ""
  speechEnabled := false
  ttsUpstreamModel := ""
  ttsDefaultVoice := ""
  videoEnabled := false
  videoUpstreamModel := ""
  videoI2VUpstreamModel := ""
  videoHandleKey := []
  mediaEnabled := false
  mediaStagingRoot := ""
  mediaSigningSecret := []
  mediaSigningSecretSource := ""
  mediaUploadMaxBytes := 0
  mediaChunkMaxBytes := 0
  mediaUploadTTL := 0
  mediaLeaseTTL := 0
  mediaFetchDomain := ""
  resetTZ := ""
  listenAddr := ""
  adminAddr := ""
  dashboardAddr := ""
  logLevel := ""
  dbPath := ""
  runtimeMode := ""
  publicModelID := ""
  globalMonthlySpendPUSD := 0
  monthlyQuota := 0
  maxTokensCap := 0
  inputTokenCap := 0
  maxMessages := 0
  maxMessageChars := 0
  maxMediaParts := 0
  maxMediaDecodedBytes := 0
  maxBodyBytes := 0
  nGlobalConcurrency := 0
  ratePerMin := 0
  dailySublimit := 0
  imageDailyLimit := 0
  voiceDailyLimit := 0
  voiceAccountCeiling := 0
  speechDailyLimit := 0
  videoDailyLimit := 0
  installPerIPHour := 0
  installGlobalDailyCap := 0
  installPerFPDaily := 0
  installPerFPCooldownSec := 0
  installPowMode := ""
  installPowDifficulty := 0
  tokenAnomalyRPM := 0
  tokenThrottleFactor := 0
  tokenThrottleCooldownSec := 0
  queueWait := 0
  upstreamHeaderTimeout := 0
  diskMinMB := 0
  diskMinPercent := 0

/-- What is known before the first setting is read. -/
def start (keys : List String) : Config := { zero with qwenAPIKeys := keys }

/-- The keys of `DASHSCOPE_API_KEY`. -/
def apiKeys (getenv : Environment) : List String :=
  ((getenv "DASHSCOPE_API_KEY").toList.splitOn ',').map (fun k => trimSpace (String.ofList k))
    |>.filter (· ≠ "")

/-- The models, from the base URL on. -/
def readModels (platform : Platform) (c : Config) : EnvReader Config := do
  let baseURL ← qwenBaseURL platform
  let publicModelID ← str "PUBLIC_MODEL_ID" "anselm-auto"
  let multimodalUpstreamModel ← str "MULTIMODAL_UPSTREAM_MODEL" qwen37Plus
  let imageUpstreamModel ← str "IMAGE_UPSTREAM_MODEL" qwenImage20
  let voiceAccountCeiling ← boundedInt "VOICE_ACCOUNT_CEILING" 0 0 maxVoiceAccountCeiling
  let dashScopeNativeBase ← str "DASHSCOPE_NATIVE_BASE" (nativeBaseFrom baseURL)
  let ttsUpstreamModel ← str "TTS_UPSTREAM_MODEL" qwenAudio30TTSFlash
  let videoUpstreamModel ← str "VIDEO_UPSTREAM_MODEL" wan27T2V
  let videoI2VUpstreamModel ← str "VIDEO_I2V_UPSTREAM_MODEL" wan27I2V
  let ttsDefaultVoice ← str "TTS_DEFAULT_VOICE" "longanhuan_v3.6"
  return { c with
    publicModelID, multimodalUpstreamModel, imageUpstreamModel, voiceAccountCeiling,
    dashScopeNativeBase, ttsUpstreamModel, videoUpstreamModel, videoI2VUpstreamModel, ttsDefaultVoice,
    qwenBaseURL := baseURL }

/-- The caps, up to the media ones. -/
def readCaps (c : Config) : EnvReader Config := do
  let runtimeMode ← str "GATEWAY_MODE" runtimeModeDebug
  failErr (validateRuntimeMode runtimeMode)
  let monthlyQuota ← boundedInt "MONTHLY_QUOTA" 5000 1 maxMonthlyQuota
  let monthlySpendMicro ←
    boundedInt "GLOBAL_MONTHLY_SPEND_MICRO_USD" 420000000 1 maxMonthlySpendMicroUSD
  let maxTokensCap ← boundedInt "MAX_TOKENS_CAP" 4096 1 maxTokensCap
  let inputTokenCap ← boundedInt "INPUT_TOKEN_CAP" 0 0 maxInputTokenCap
  let maxMessages ← boundedInt "MAX_MESSAGES" 256 1 maxMessages
  let maxMessageChars ← boundedInt "MAX_MESSAGE_CHARS" 131072 1 maxMessageChars
  let maxBodyBytes ← boundedInt "MAX_BODY_BYTES" (256 * 1024) minBodyBytes maxBodyBytesCeiling
  let maxMediaParts ← boundedInt "MAX_MEDIA_PARTS" 8 1 maxMediaParts
  let defaultMediaBytes := min (3 * 1024 * 1024) ((maxBodyBytes * 3).tdiv 4)
  let maxMediaDecodedBytes ←
    boundedInt "MAX_MEDIA_DECODED_BYTES" defaultMediaBytes 1 maxMediaDecodedBytes
  return { c with
    runtimeMode, monthlyQuota, maxTokensCap, inputTokenCap, maxMessages, maxMessageChars, maxBodyBytes,
    maxMediaParts, maxMediaDecodedBytes,
    globalMonthlySpendPUSD := monthlySpendMicro * picoUSDPerMicroUSD }

/-- The media and the generation capabilities. -/
def readMedia (c : Config) : EnvReader Config := do
  let mediaEnabled ← boolean "MEDIA_ENABLED" false
  let mediaDomain ← str "MEDIA_DOMAIN" ""
  let imageEnabled ← boolean "IMAGE_ENABLED" false
  let imageDailyLimit ← boundedInt "IMAGE_DAILY_LIMIT" 10 0 maxImageDailyLimit
  let speechEnabled ← boolean "SPEECH_ENABLED" false
  let speechDailyLimit ← boundedInt "SPEECH_DAILY_LIMIT" 50000 0 maxSpeechDailyLimit
  let videoEnabled ← boolean "VIDEO_ENABLED" false
  let videoDailyLimit ← boundedInt "VIDEO_DAILY_LIMIT" 10 0 maxVideoDailyLimit
  let voiceDailyLimit ← boundedInt "VOICE_DAILY_LIMIT" 2 0 maxVoiceDailyLimit
  let mediaUploadMaxBytes ←
    boundedInt "MEDIA_UPLOAD_MAX_BYTES" (100 * 1024 * 1024) 1 maxMediaUploadBytes
  let defaultChunkBytes := min (4 * 1024 * 1024) c.maxBodyBytes
  let mediaChunkMaxBytes ← boundedInt "MEDIA_CHUNK_MAX_BYTES" defaultChunkBytes 1 c.maxBodyBytes
  let uploadTTLSec ← boundedInt "MEDIA_UPLOAD_TTL_SEC" 3600 1 (7 * 24 * 3600)
  let leaseTTLSec ← boundedInt "MEDIA_LEASE_TTL_SEC" 3600 1 (7 * 24 * 3600)
  return { c with
    mediaEnabled, imageEnabled, imageDailyLimit, speechEnabled, speechDailyLimit, videoEnabled,
    videoDailyLimit, voiceDailyLimit, mediaUploadMaxBytes, mediaChunkMaxBytes,
    mediaFetchDomain := trimSpace mediaDomain
    mediaUploadTTL := uploadTTLSec * second
    mediaLeaseTTL := leaseTTLSec * second }

/-- The rates, the install gates, and the timeouts. -/
def readRates (c : Config) : EnvReader Config := do
  let nGlobalConcurrency ← boundedInt "N_GLOBAL_CONCURRENCY" 8 1 maxNGlobalConcurrency
  let ratePerMin ← boundedInt "RATE_PER_MIN" 0 0 maxRatePerMin
  let dailySublimit ← boundedInt "DAILY_SUBLIMIT" 0 0 maxDailySublimit
  let installPerIPHour ← boundedInt "INSTALL_PER_IP_HOUR" 0 0 maxInstallPerIPHour
  let installGlobalDailyCap ← boundedInt "INSTALL_GLOBAL_DAILY_CAP" 0 0 maxInstallGlobalDailyCap
  let installPerFPDaily ← boundedInt "INSTALL_PER_FP_DAILY" 0 0 maxInstallPerFPDaily
  let installPerFPCooldownSec ←
    boundedInt "INSTALL_PER_FP_COOLDOWN_SEC" 0 0 maxInstallPerFPCooldownSec
  let installPowMode ← str "INSTALL_POW_MODE" powModeOff
  failErr (validatePowMode installPowMode)
  let installPowDifficulty ← boundedInt "INSTALL_POW_DIFFICULTY" 20 1 maxInstallPowDifficulty
  let secret ← str "INSTALL_POW_SECRET" ""
  let tokenAnomalyRPM ← boundedInt "TOKEN_ANOMALY_RPM" 0 0 maxTokenAnomalyRPM
  let tokenThrottleFactor ← boundedInt "TOKEN_THROTTLE_FACTOR" 4 1 maxTokenThrottleFactor
  let tokenThrottleCooldownSec ←
    boundedInt "TOKEN_THROTTLE_COOLDOWN_SEC" 300 1 maxTokenThrottleCooldownSec
  let hdrSec ← boundedInt "UPSTREAM_HEADER_TIMEOUT_SEC" 60 1 maxUpstreamHeaderTimeoutSec
  let queueMS ← boundedInt "QUEUE_WAIT_MS" 1500 0 maxQueueWaitMS
  return { c with
    nGlobalConcurrency, ratePerMin, dailySublimit, installPerIPHour, installGlobalDailyCap,
    installPerFPDaily, installPerFPCooldownSec, installPowMode,
    installPowDifficulty, tokenAnomalyRPM, tokenThrottleFactor, tokenThrottleCooldownSec,
    installPowSecret := utf8 secret
    installPowSecretSource := if secret = "" then "disabled" else "configured"
    upstreamHeaderTimeout := hdrSec * second
    queueWait := queueMS * millisecond }

/-- What a 64-bit operation makes of its exact result. -/
def wrap (n : ℤ) : ℤ := (Int64.ofInt n).toInt

/-- The inputs of the memory budget. They have no ceilings. -/
def readBudget (c : Config) : EnvReader Config := do
  let goMemLimitMiB ← int "GOMEMLIMIT_MIB" 768
  failErr (refuseIf (goMemLimitMiB < 0) "GOMEMLIMIT_MIB must be >= 0 (0=disable)")
  let sqliteCacheKiB ← int "SQLITE_CACHE_KIB" 32768
  failErr (refuseIf (sqliteCacheKiB ≤ 0) "SQLITE_CACHE_KIB must be > 0")
  let mmapMB ← int "SQLITE_MMAP_MB" 256
  failErr (refuseIf (mmapMB < 0) "SQLITE_MMAP_MB must be >= 0 (0=disable mmap)")
  let sqliteAutockptPage ← int "SQLITE_WAL_AUTOCHECKPOINT" 4000
  failErr (refuseIf (sqliteAutockptPage < 0) "SQLITE_WAL_AUTOCHECKPOINT must be >= 0")
  let readPoolMaxConns ← int "READ_POOL_MAX_CONNS" 4
  failErr (refuseIf (readPoolMaxConns ≤ 0) "READ_POOL_MAX_CONNS must be > 0")
  let memBudgetMiB ← int "MEM_BUDGET_MIB" 2048
  failErr (refuseIf (memBudgetMiB ≤ 0) "MEM_BUDGET_MIB must be > 0")
  let memSafetyMarginMiB ← int "MEM_SAFETY_MARGIN_MIB" 400
  failErr (refuseIf (memSafetyMarginMiB < 0) "MEM_SAFETY_MARGIN_MIB must be >= 0")
  return { c with
    goMemLimitMiB, sqliteCacheKiB, sqliteAutockptPage, readPoolMaxConns, memBudgetMiB,
    memSafetyMarginMiB,
    sqliteMmapBytes := wrap (wrap (mmapMB * 1024) * 1024) }

/-- `WorstCaseMemoryMiB`. -/
def worstCaseMemoryMiB (c : Startup) : ℤ :=
  let cacheMiB := c.sqliteCacheKiB.tdiv 1024
  let mmapMiB := c.sqliteMmapBytes.tdiv (1024 * 1024)
  wrap (wrap (c.goMemLimitMiB + wrap (cacheMiB * wrap (1 + c.readPoolMaxConns))) + mmapMiB)

/-- `ValidateMemoryBudget`, without its advisory verdict. -/
def validateMemoryBudget (c : Startup) : Except LoadError Unit :=
  let worst := worstCaseMemoryMiB c
  let ceiling := wrap (c.memBudgetMiB - c.memSafetyMarginMiB)
  if worst ≤ ceiling then .ok ()
  else if c.goMemLimitMiB = 0 then .ok ()
  else .error (.memoryBudget worst c.goMemLimitMiB (c.sqliteCacheKiB.tdiv 1024) c.readPoolMaxConns
    (c.sqliteMmapBytes.tdiv (1024 * 1024)) c.memBudgetMiB c.memSafetyMarginMiB ceiling)

def readDisk (c : Config) : EnvReader Config := do
  let diskMinMB ← boundedInt "DISK_MIN_MB" 500 0 maxDiskMinMB
  let diskMinPercent ← int "DISK_MIN_PERCENT" 5
  failErr (refuseIf (diskMinPercent < 0 ∨ diskMinPercent > 100)
    "DISK_MIN_PERCENT must be 0..100 (0=disable percent floor)")
  return { c with diskMinMB, diskMinPercent }

/-- The time zone, the paths, and the signing material. -/
def readStore (platform : Platform) (c : Config) : EnvReader Config := do
  let resetTZ ← str "RESET_TZ" "Asia/Shanghai"
  let dbPath ← str "GATEWAY_DB_PATH" "anselm-gateway.db"
  let mediaStagingRoot ← str "MEDIA_STAGING_ROOT" (mediaRootBeside dbPath)
  let secret ← str "MEDIA_SIGNING_SECRET" ""
  -- Without a secret both keys stay empty.
  return { c with
    resetTZ, dbPath, mediaStagingRoot,
    mediaSigningSecret := utf8 secret
    mediaSigningSecretSource := if secret = "" then "disabled" else "configured"
    videoHandleKey := if secret = "" then [] else VideoHandle.deriveKey platform.hmac (utf8 secret) }

/-- Two listeners must not share an address. -/
def isolated (name address other otherAddress : String) : EnvReader Unit :=
  .report (if address = otherAddress then [.sharedListener name address other otherAddress] else [])

/-- The three listeners. -/
def readListeners (c : Config) : EnvReader Config := do
  let listenAddr ← str "LISTEN_ADDR" "127.0.0.1:8080"
  let adminAddr ← str "ADMIN_ADDR" "127.0.0.1:9090"
  let dashboardAddr ← str "DASHBOARD_ADDR" "127.0.0.1:8081"
  isolated "DASHBOARD_ADDR" dashboardAddr "LISTEN_ADDR" listenAddr
  isolated "DASHBOARD_ADDR" dashboardAddr "ADMIN_ADDR" adminAddr
  let logLevel ← str "LOG_LEVEL" "info"
  return { c with listenAddr, adminAddr, dashboardAddr, logLevel }

/-! ## `LoadBase` -/

/-- All that is read before the first return. -/
def readFirst (platform : Platform) (c : Config) : EnvReader Config :=
  readModels platform c >>= readCaps >>= readMedia >>= readRates >>= readBudget

/-- The first error is the one reported. -/
def firstError : List LoadError → Except LoadError Unit
  | [] => .ok ()
  | error :: _ => .error error

/-- `LoadBase`. -/
def loadBase (platform : Platform) (getenv : Environment) : Except LoadError Config := do
  if apiKeys getenv = [] then throw .qwenKeyRequired
  let first := readFirst platform (start (apiKeys getenv))
  firstError (first.failures getenv)
  validateMemoryBudget (first.value getenv).toStartup
  let disk := readDisk (first.value getenv)
  let store := readStore platform (disk.value getenv)
  let c := store.value getenv
  if platform.zoneExists c.resetTZ = false then throw (.panicked c.resetTZ)
  let failures := disk.failures getenv ++ store.failures getenv
  -- The cross-field checks are for what has been read without an error.
  let semantics := if failures = [] then (failErr c.validateSemantics).failures getenv else []
  let listeners := readListeners c
  firstError (failures ++ semantics ++ listeners.failures getenv)
  return listeners.value getenv

end AnselmGateway.LoadBase
