import AnselmGateway.ConfigSemantics
import AnselmGateway.HotConfiguration
import AnselmGateway.LoadBase

/-! Two doors to the same settings: what a start reads of each overridable key, beside what
an override of that key does. -/
namespace AnselmGateway.ConfigIntake
open Foundation RuntimeConfig ConfigSemantics HotConfiguration LoadBase

/-- How a start reads one overridable key: whether it goes through, and what is stored. -/
structure Intake where
  key : String
  passes : Environment → Prop
  value : Environment → Value

def number (key : String) (default_ min max : ℤ) (scale : ℤ → ℤ) : Intake where
  key := key
  passes := (boundedInt key default_ min max).Passes
  value getenv := .number (scale ((int key default_).value getenv))

def text (key default_ : String) (check : String → Except ConfigError Unit) : Intake where
  key := key
  passes getenv := check ((str key default_).value getenv) = .ok ()
  value getenv := .text ((str key default_).value getenv)

/-- The overridable keys as a start reads them, in the order of the registry; one default
comes from another key. -/
def intakes (defaultMediaBytes : ℤ) : List Intake := [
  text "GATEWAY_MODE" runtimeModeDebug validateRuntimeMode,
  text "PUBLIC_MODEL_ID" "anselm-auto" fun _ => .ok (),
  number "GLOBAL_MONTHLY_SPEND_MICRO_USD" 420000000 1 maxMonthlySpendMicroUSD (· * picoUSDPerMicroUSD),
  number "MONTHLY_QUOTA" 5000 1 maxMonthlyQuota id,
  number "MAX_TOKENS_CAP" 4096 1 maxTokensCap id,
  number "INPUT_TOKEN_CAP" 0 0 maxInputTokenCap id,
  number "MAX_MESSAGES" 256 1 maxMessages id,
  number "MAX_MESSAGE_CHARS" 131072 1 maxMessageChars id,
  number "MAX_MEDIA_PARTS" 8 1 maxMediaParts id,
  number "MAX_MEDIA_DECODED_BYTES" defaultMediaBytes 1 maxMediaDecodedBytes id,
  number "MAX_BODY_BYTES" (256 * 1024) minBodyBytes maxBodyBytesCeiling id,
  number "N_GLOBAL_CONCURRENCY" 8 1 maxNGlobalConcurrency id,
  number "RATE_PER_MIN" 0 0 maxRatePerMin id,
  number "DAILY_SUBLIMIT" 0 0 maxDailySublimit id,
  number "IMAGE_DAILY_LIMIT" 10 0 maxImageDailyLimit id,
  number "VOICE_DAILY_LIMIT" 2 0 maxVoiceDailyLimit id,
  number "VOICE_ACCOUNT_CEILING" 0 0 maxVoiceAccountCeiling id,
  number "SPEECH_DAILY_LIMIT" 50000 0 maxSpeechDailyLimit id,
  number "VIDEO_DAILY_LIMIT" 10 0 maxVideoDailyLimit id,
  number "INSTALL_PER_IP_HOUR" 0 0 maxInstallPerIPHour id,
  number "INSTALL_GLOBAL_DAILY_CAP" 0 0 maxInstallGlobalDailyCap id,
  number "INSTALL_PER_FP_DAILY" 0 0 maxInstallPerFPDaily id,
  number "INSTALL_PER_FP_COOLDOWN_SEC" 0 0 maxInstallPerFPCooldownSec id,
  text "INSTALL_POW_MODE" powModeOff validatePowMode,
  number "INSTALL_POW_DIFFICULTY" 20 1 maxInstallPowDifficulty id,
  number "TOKEN_ANOMALY_RPM" 0 0 maxTokenAnomalyRPM id,
  number "TOKEN_THROTTLE_FACTOR" 4 1 maxTokenThrottleFactor id,
  number "TOKEN_THROTTLE_COOLDOWN_SEC" 300 1 maxTokenThrottleCooldownSec id,
  number "QUEUE_WAIT_MS" 1500 0 maxQueueWaitMS (· * millisecond),
  number "UPSTREAM_HEADER_TIMEOUT_SEC" 60 1 maxUpstreamHeaderTimeoutSec (· * second),
  number "DISK_MIN_MB" 500 0 maxDiskMinMB id,
  number "DISK_MIN_PERCENT" 5 0 100 id]

theorem boundInt_ok {name : String} {v min max : ℤ} :
    boundInt name v min max = .ok () ↔ min ≤ v ∧ v ≤ max := by
  unfold boundInt
  split
  · exact ⟨nofun, fun inside => by omega⟩
  · split
    · exact ⟨nofun, fun inside => by omega⟩
    · exact ⟨fun _ => by omega, fun _ => rfl⟩

/-! ## What each part of a start stores -/

/-- Values stored at places of a list, one after another. -/
def storeAll (stores : List (ℕ × Value)) (values : List Value) : List Value :=
  stores.foldl (fun values store => values.set store.1 store.2) values

section Fields
variable (platform : Platform) (c : Config) (getenv : Environment)

theorem fields_readModels : fields ((readModels platform c).value getenv) = storeAll [
    (1, .text ((str "PUBLIC_MODEL_ID" "anselm-auto").value getenv)),
    (16, .number ((int "VOICE_ACCOUNT_CEILING" 0).value getenv))] (fields c) := by
  simp only [readModels, Reading.value_bind, Reading.value_pure, value_boundedInt, fields, storeAll,
    List.foldl_cons, List.foldl_nil, List.set_cons_succ, List.set_cons_zero]

/-- The default of `MAX_MEDIA_DECODED_BYTES`. -/
def defaultMediaBytes : ℤ :=
  min (3 * 1024 * 1024) (((int "MAX_BODY_BYTES" (256 * 1024)).value getenv * 3).tdiv 4)

theorem fields_readCaps : fields ((readCaps c).value getenv) = storeAll [
    (0, .text ((str "GATEWAY_MODE" runtimeModeDebug).value getenv)),
    (2, .number ((int "GLOBAL_MONTHLY_SPEND_MICRO_USD" 420000000).value getenv * picoUSDPerMicroUSD)),
    (3, .number ((int "MONTHLY_QUOTA" 5000).value getenv)),
    (4, .number ((int "MAX_TOKENS_CAP" 4096).value getenv)),
    (5, .number ((int "INPUT_TOKEN_CAP" 0).value getenv)),
    (6, .number ((int "MAX_MESSAGES" 256).value getenv)),
    (7, .number ((int "MAX_MESSAGE_CHARS" 131072).value getenv)),
    (8, .number ((int "MAX_MEDIA_PARTS" 8).value getenv)),
    (9, .number ((int "MAX_MEDIA_DECODED_BYTES" (defaultMediaBytes getenv)).value getenv)),
    (10, .number ((int "MAX_BODY_BYTES" (256 * 1024)).value getenv))] (fields c) := by
  simp only [readCaps, Reading.value_bind, Reading.value_pure, value_boundedInt, fields, storeAll,
    defaultMediaBytes, List.foldl_cons, List.foldl_nil, List.set_cons_succ, List.set_cons_zero]

theorem fields_readMedia : fields ((readMedia c).value getenv) = storeAll [
    (14, .number ((int "IMAGE_DAILY_LIMIT" 10).value getenv)),
    (15, .number ((int "VOICE_DAILY_LIMIT" 2).value getenv)),
    (17, .number ((int "SPEECH_DAILY_LIMIT" 50000).value getenv)),
    (18, .number ((int "VIDEO_DAILY_LIMIT" 10).value getenv))] (fields c) := by
  simp only [readMedia, Reading.value_bind, Reading.value_pure, value_boundedInt, fields, storeAll,
    List.foldl_cons, List.foldl_nil, List.set_cons_succ, List.set_cons_zero]

theorem fields_readRates : fields ((readRates c).value getenv) = storeAll [
    (11, .number ((int "N_GLOBAL_CONCURRENCY" 8).value getenv)),
    (12, .number ((int "RATE_PER_MIN" 0).value getenv)),
    (13, .number ((int "DAILY_SUBLIMIT" 0).value getenv)),
    (19, .number ((int "INSTALL_PER_IP_HOUR" 0).value getenv)),
    (20, .number ((int "INSTALL_GLOBAL_DAILY_CAP" 0).value getenv)),
    (21, .number ((int "INSTALL_PER_FP_DAILY" 0).value getenv)),
    (22, .number ((int "INSTALL_PER_FP_COOLDOWN_SEC" 0).value getenv)),
    (23, .text ((str "INSTALL_POW_MODE" powModeOff).value getenv)),
    (24, .number ((int "INSTALL_POW_DIFFICULTY" 20).value getenv)),
    (25, .number ((int "TOKEN_ANOMALY_RPM" 0).value getenv)),
    (26, .number ((int "TOKEN_THROTTLE_FACTOR" 4).value getenv)),
    (27, .number ((int "TOKEN_THROTTLE_COOLDOWN_SEC" 300).value getenv)),
    (28, .number ((int "QUEUE_WAIT_MS" 1500).value getenv * millisecond)),
    (29, .number ((int "UPSTREAM_HEADER_TIMEOUT_SEC" 60).value getenv * second))] (fields c) := by
  simp only [readRates, Reading.value_bind, Reading.value_pure, value_boundedInt, fields, storeAll,
    List.foldl_cons, List.foldl_nil, List.set_cons_succ, List.set_cons_zero]

theorem fields_readBudget : fields ((readBudget c).value getenv) = fields c := by
  simp only [readBudget, Reading.value_bind, Reading.value_pure, fields]

theorem fields_readDisk : fields ((readDisk c).value getenv) = storeAll [
    (30, .number ((int "DISK_MIN_MB" 500).value getenv)),
    (31, .number ((int "DISK_MIN_PERCENT" 5).value getenv))] (fields c) := by
  simp only [readDisk, Reading.value_bind, Reading.value_pure, value_boundedInt, fields, storeAll,
    List.foldl_cons, List.foldl_nil, List.set_cons_succ, List.set_cons_zero]

theorem fields_readStore : fields ((readStore platform c).value getenv) = fields c := by
  simp only [readStore, Reading.value_bind, Reading.value_pure, fields]

theorem fields_readListeners : fields ((readListeners c).value getenv) = fields c := by
  simp only [readListeners, Reading.value_bind, Reading.value_pure, fields]

/-- The configuration after the first part. -/
def readFirstOf : Config := (readFirst platform (start (apiKeys getenv))).value getenv

/-- The configuration the cross-field checks are made on. -/
def readAllOf : Config :=
  (readStore platform ((readDisk (readFirstOf platform getenv)).value getenv)).value getenv

/-- All a start would build, whatever was wrong on the way. -/
def assembled : Config := (readListeners (readAllOf platform getenv)).value getenv

theorem fields_assembled : fields (assembled platform getenv) =
    (intakes (defaultMediaBytes getenv)).map fun row => row.value getenv := by
  rw [assembled, fields_readListeners, readAllOf, fields_readStore, fields_readDisk, readFirstOf,
    readFirst, Reading.value_bind, fields_readBudget, Reading.value_bind, fields_readRates,
    Reading.value_bind, fields_readMedia, Reading.value_bind, fields_readCaps, fields_readModels]
  simp only [storeAll, intakes, fields, List.foldl_cons, List.foldl_nil, List.set_cons_succ,
    List.set_cons_zero, List.map_cons, List.map_nil, text, number, id_eq]

end Fields

/-! ## When a start succeeds -/

section Succeeds
variable {platform : Platform} {getenv : Environment} {c : Config}

theorem firstError_ok {failures : List LoadError} {done : Unit} :
    firstError failures = .ok done ↔ failures = [] := by
  cases failures with
  | nil => exact ⟨fun _ => rfl, fun _ => rfl⟩
  | cons failure rest => exact ⟨nofun, nofun⟩

theorem readStore_passes (c : Config) : (readStore platform c).Passes getenv := by
  simp only [readStore, Reading.passes_bind, passes_str, Reading.passes_pure, and_self]

/-- A start that succeeds has passed every part, and gives all it has assembled. -/
theorem loadBase_ok : loadBase platform getenv = .ok c ↔ apiKeys getenv ≠ [] ∧
    (readFirst platform (start (apiKeys getenv))).Passes getenv ∧
    validateMemoryBudget (readFirstOf platform getenv).toStartup = .ok () ∧
    platform.zoneExists (readAllOf platform getenv).resetTZ = true ∧
    (readDisk (readFirstOf platform getenv)).Passes getenv ∧
    (readAllOf platform getenv).validateSemantics = .ok () ∧
    (readListeners (readAllOf platform getenv)).Passes getenv ∧ assembled platform getenv = c := by
  have stored : (readStore platform ((readDisk (readFirstOf platform getenv)).value getenv)).failures getenv =
    [] := readStore_passes _
  unfold loadBase
  by_cases keys : apiKeys getenv = []
  · rw [if_pos keys]
    exact ⟨nofun, fun all => absurd keys all.1⟩
  rw [if_neg keys]
  have first : (readFirst platform (start (apiKeys getenv))).value getenv = readFirstOf platform getenv :=
    (rfl)
  have all : (readStore platform ((readDisk (readFirstOf platform getenv)).value getenv)).value getenv =
    readAllOf platform getenv := (rfl)
  simp only [Fallible.bind_ok, firstError_ok, exists_const, first, all]
  by_cases zone : platform.zoneExists (readAllOf platform getenv).resetTZ = true
  · rw [if_neg (by simp [zone])]
    simp only [Fallible.bind_ok, firstError_ok, exists_const, stored, List.append_nil]
    have checks (disk semantics listeners : List LoadError) :
        (disk ++ if disk = [] then semantics else []) ++ listeners = [] ↔
          disk = [] ∧ semantics = [] ∧ listeners = [] := by
      cases disk <;> simp
    rw [checks]
    constructor
    · rintro ⟨passed, _, budget, ⟨disk, semantics, listeners⟩, same⟩
      exact ⟨keys, passed, budget, zone, disk, (passes_failErr getenv _).mp semantics, listeners,
        Except.ok.inj same⟩
    · rintro ⟨_, passed, budget, _, disk, semantics, listeners, same⟩
      exact ⟨passed, (), budget, ⟨disk, (passes_failErr getenv _).mpr semantics, listeners⟩,
        congrArg Except.ok same⟩
  · rw [if_pos (by simpa using zone)]
    constructor
    · rintro ⟨_, _, _, stopped⟩
      cases stopped
    · rintro ⟨_, _, _, exists_, _⟩
      exact absurd exists_ zone

/-- What a start reads of `MAX_BODY_BYTES`. -/
def bodyBytes (getenv : Environment) : ℤ := (int "MAX_BODY_BYTES" (256 * 1024)).value getenv

/-- The one check of a start that holds two settings against one another. -/
def chunk (getenv : Environment) : EnvReader ℤ :=
  boundedInt "MEDIA_CHUNK_MAX_BYTES" (min (4 * 1024 * 1024) (bodyBytes getenv)) 1 (bodyBytes getenv)

/-- The checks of what no override reaches. -/
structure Cold (platform : Platform) (getenv : Environment) : Prop where
  keys : apiKeys getenv ≠ []
  baseURL : (qwenBaseURL platform).Passes getenv
  mediaEnabled : (boolean "MEDIA_ENABLED" false).Passes getenv
  imageEnabled : (boolean "IMAGE_ENABLED" false).Passes getenv
  speechEnabled : (boolean "SPEECH_ENABLED" false).Passes getenv
  videoEnabled : (boolean "VIDEO_ENABLED" false).Passes getenv
  uploadMax : (boundedInt "MEDIA_UPLOAD_MAX_BYTES" (100 * 1024 * 1024) 1 maxMediaUploadBytes).Passes getenv
  uploadTTL : (boundedInt "MEDIA_UPLOAD_TTL_SEC" 3600 1 (7 * 24 * 3600)).Passes getenv
  leaseTTL : (boundedInt "MEDIA_LEASE_TTL_SEC" 3600 1 (7 * 24 * 3600)).Passes getenv
  budget : (readBudget zero).Passes getenv
  memory : validateMemoryBudget (readFirstOf platform getenv).toStartup = .ok ()
  zone : platform.zoneExists (readAllOf platform getenv).resetTZ = true
  listeners : (readListeners zero).Passes getenv

theorem readBudget_passes (c : Config) : (readBudget c).Passes getenv ↔ (readBudget zero).Passes getenv := by
  simp only [readBudget, Reading.passes_bind, Reading.passes_pure]

theorem readListeners_passes (c : Config) :
    (readListeners c).Passes getenv ↔ (readListeners zero).Passes getenv := by
  simp only [readListeners, Reading.passes_bind, Reading.passes_pure]

theorem maxBodyBytes_readCaps (c : Config) : ((readCaps c).value getenv).maxBodyBytes = bodyBytes getenv := by
  simp only [readCaps, Reading.value_bind, Reading.value_pure, value_boundedInt, bodyBytes]

theorem percent_passes : (boundedInt "DISK_MIN_PERCENT" 5 0 100).Passes getenv ↔
    (int "DISK_MIN_PERCENT" 5).Passes getenv ∧
      ¬((int "DISK_MIN_PERCENT" 5).value getenv < 0 ∨ (int "DISK_MIN_PERCENT" 5).value getenv > 100) := by
  rw [passes_boundedInt]
  refine and_congr_right fun _ => ?_
  rw [boundInt_ok]
  omega

theorem parts_pass : ((readFirst platform (start (apiKeys getenv))).Passes getenv ∧
      (readDisk (readFirstOf platform getenv)).Passes getenv) ↔
    (∀ row ∈ intakes (defaultMediaBytes getenv), row.passes getenv) ∧ (chunk getenv).Passes getenv ∧
      (qwenBaseURL platform).Passes getenv ∧ (boolean "MEDIA_ENABLED" false).Passes getenv ∧
      (boolean "IMAGE_ENABLED" false).Passes getenv ∧ (boolean "SPEECH_ENABLED" false).Passes getenv ∧
      (boolean "VIDEO_ENABLED" false).Passes getenv ∧
      (boundedInt "MEDIA_UPLOAD_MAX_BYTES" (100 * 1024 * 1024) 1 maxMediaUploadBytes).Passes getenv ∧
      (boundedInt "MEDIA_UPLOAD_TTL_SEC" 3600 1 (7 * 24 * 3600)).Passes getenv ∧
      (boundedInt "MEDIA_LEASE_TTL_SEC" 3600 1 (7 * 24 * 3600)).Passes getenv ∧
      (readBudget zero).Passes getenv := by
  unfold readFirst
  simp only [Reading.passes_bind, Reading.value_bind, readBudget_passes]
  simp only [readMedia, Reading.passes_bind, maxBodyBytes_readCaps]
  simp only [readModels, readCaps, readRates, readDisk, Reading.passes_bind, Reading.passes_pure,
    passes_str, passes_failErr, value_boundedInt, refuseIf_passes, decide_eq_false_iff_not, and_true,
    true_and, ← percent_passes]
  simp only [intakes, text, number, defaultMediaBytes, chunk, List.forall_mem_cons, List.not_mem_nil,
    IsEmpty.forall_iff, implies_true, true_and, and_true]
  -- The same checks, on one side in the order of the source, on the other in that of the registry.
  constructor <;> intro all <;> simp only [all, and_self]

/-- The cross-field checks do not look at the listeners. -/
theorem validateSemantics_readListeners (c : Config) :
    ((readListeners c).value getenv).validateSemantics = c.validateSemantics := by
  simp only [readListeners, Reading.value_bind, Reading.value_pure]
  rfl

theorem loadBase_iff : loadBase platform getenv = .ok c ↔ Cold platform getenv ∧
    (∀ row ∈ intakes (defaultMediaBytes getenv), row.passes getenv) ∧ (chunk getenv).Passes getenv ∧
    Meaningful (assembled platform getenv) ∧ assembled platform getenv = c := by
  rw [loadBase_ok, ← validateSemantics_ok, assembled, validateSemantics_readListeners]
  constructor
  · rintro ⟨keys, first, memory, zone, disk, semantics, listeners, same⟩
    obtain ⟨rows, chunk, baseURL, media, image, speech, video, uploadMax, uploadTTL, leaseTTL, budget⟩ :=
      parts_pass.mp ⟨first, disk⟩
    exact ⟨⟨keys, baseURL, media, image, speech, video, uploadMax, uploadTTL, leaseTTL, budget, memory, zone,
      (readListeners_passes _).mp listeners⟩, rows, chunk, semantics, same⟩
  · rintro ⟨cold, rows, chunk, semantics, same⟩
    obtain ⟨first, disk⟩ := parts_pass.mpr ⟨rows, chunk, cold.baseURL, cold.mediaEnabled, cold.imageEnabled,
      cold.speechEnabled, cold.videoEnabled, cold.uploadMax, cold.uploadTTL, cold.leaseTTL, cold.budget⟩
    exact ⟨cold.keys, first, cold.memory, cold.zone, disk, semantics,
      (readListeners_passes _).mpr cold.listeners, same⟩

end Succeeds
end AnselmGateway.ConfigIntake
