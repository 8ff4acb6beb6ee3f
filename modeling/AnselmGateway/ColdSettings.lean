import AnselmGateway.ConfigIntake
import Mathlib.Logic.Function.Basic

/-! What an override cannot reach. A start under two environments that agree outside the
overridable keys passes the same checks there, and stores the same. -/
namespace AnselmGateway.ColdSettings
open Foundation RuntimeConfig ConfigSemantics HotConfiguration LoadBase ConfigIntake

/-! ## Environments that differ in keys an override can reach -/

/-- The keys an override can reach. -/
def hotKeys : List String := runtimeSpecs.map Spec.key

def Agree (getenv getenv' : Environment) : Prop := ∀ key, key ∉ hotKeys → getenv' key = getenv key

section Changed
variable {getenv getenv' : Environment} {key : String}

theorem str_congr (same : getenv' key = getenv key) (default_ : String) :
    str key default_ getenv' = str key default_ getenv := by
  simp only [str, same]

theorem int_congr (same : getenv' key = getenv key) (default_ : ℤ) :
    int key default_ getenv' = int key default_ getenv := by
  simp only [int, same]

theorem boolean_congr (same : getenv' key = getenv key) (default_ : Bool) :
    boolean key default_ getenv' = boolean key default_ getenv := by
  simp only [boolean, same]

variable (agree : Agree getenv getenv')
include agree

theorem cold_str (cold : key ∉ hotKeys) (default_ : String) :
    (str key default_).value getenv' = (str key default_).value getenv :=
  congrArg Prod.fst (str_congr (agree key cold) default_)

theorem cold_int (cold : key ∉ hotKeys) (default_ : ℤ) :
    (int key default_).value getenv' = (int key default_).value getenv :=
  congrArg Prod.fst (int_congr (agree key cold) default_)

theorem cold_int_passes (cold : key ∉ hotKeys) (default_ : ℤ) :
    (int key default_).Passes getenv' ↔ (int key default_).Passes getenv := by
  unfold Reading.Passes Reading.failures
  rw [int_congr (agree key cold)]

theorem cold_boolean (cold : key ∉ hotKeys) (default_ : Bool) :
    (boolean key default_).value getenv' = (boolean key default_).value getenv :=
  congrArg Prod.fst (boolean_congr (agree key cold) default_)

theorem cold_boolean_passes (cold : key ∉ hotKeys) (default_ : Bool) :
    (boolean key default_).Passes getenv' ↔ (boolean key default_).Passes getenv := by
  unfold Reading.Passes Reading.failures
  rw [boolean_congr (agree key cold)]

theorem cold_boundedInt_passes (cold : key ∉ hotKeys) (default_ min max : ℤ) :
    (boundedInt key default_ min max).Passes getenv' ↔ (boundedInt key default_ min max).Passes getenv := by
  rw [passes_boundedInt, passes_boundedInt, cold_int_passes agree cold, cold_int agree cold]

theorem cold_apiKeys : apiKeys getenv' = apiKeys getenv := by
  unfold apiKeys
  rw [agree "DASHSCOPE_API_KEY" (by decide)]

theorem cold_qwenBaseURL (platform : Platform) :
    qwenBaseURL platform getenv' = qwenBaseURL platform getenv := by
  have addressed (name value : String) :
      validateHTTPBaseURL platform name value getenv' = validateHTTPBaseURL platform name value getenv := by
    have decided (refused : Bool) (message : String) : (if refused then fail message else pure ()) getenv' =
        (if refused then fail message else pure () : EnvReader Unit) getenv := by
      cases refused <;> rfl
    exact decided _ _
  refine Reading.bind_same (str_congr (agree _ (by decide)) _) fun raw => ?_
  refine Reading.bind_same (str_congr (agree _ (by decide)) _) fun workspace => ?_
  refine Reading.bind_same (str_congr (agree _ (by decide)) _) fun credential => ?_
  -- Nothing more is read.
  split
  · exact Reading.bind_same (addressed _ _) fun _ => rfl
  · split
    · split <;> rfl
    · split <;> rfl

theorem startup_readModels (platform : Platform) {c c' : Config} (startup : c'.toStartup = c.toStartup) :
    ((readModels platform c').value getenv').toStartup = ((readModels platform c).value getenv).toStartup := by
  have base : (qwenBaseURL platform).value getenv' = (qwenBaseURL platform).value getenv :=
    congrArg Prod.fst (cold_qwenBaseURL agree platform)
  simp only [readModels, Reading.value_bind, Reading.value_pure, startup]
  simp (disch := decide) only [cold_str agree, base]

omit agree in
theorem startup_readCaps {c c' : Config} (startup : c'.toStartup = c.toStartup) :
    ((readCaps c').value getenv').toStartup = ((readCaps c).value getenv).toStartup := by
  simp only [readCaps, Reading.value_bind, Reading.value_pure, startup]

theorem startup_readMedia {c c' : Config} (startup : c'.toStartup = c.toStartup)
    (sized : (int "MEDIA_CHUNK_MAX_BYTES" (min (4 * 1024 * 1024) c'.maxBodyBytes)).value getenv' =
      (int "MEDIA_CHUNK_MAX_BYTES" (min (4 * 1024 * 1024) c.maxBodyBytes)).value getenv) :
    ((readMedia c').value getenv').toStartup = ((readMedia c).value getenv).toStartup := by
  simp only [readMedia, Reading.value_bind, Reading.value_pure, value_boundedInt, startup, sized]
  simp (disch := decide) only [cold_str agree, cold_int agree, cold_boolean agree]

theorem startup_readRates {c c' : Config} (startup : c'.toStartup = c.toStartup) :
    ((readRates c').value getenv').toStartup = ((readRates c).value getenv).toStartup := by
  simp only [readRates, Reading.value_bind, Reading.value_pure, startup]
  simp (disch := decide) only [cold_str agree]

theorem startup_readBudget {c c' : Config} (startup : c'.toStartup = c.toStartup) :
    ((readBudget c').value getenv').toStartup = ((readBudget c).value getenv).toStartup := by
  simp only [readBudget, Reading.value_bind, Reading.value_pure, startup]
  simp (disch := decide) only [cold_int agree]

theorem startup_readStore (platform : Platform) {c c' : Config} (startup : c'.toStartup = c.toStartup) :
    ((readStore platform c').value getenv').toStartup = ((readStore platform c).value getenv).toStartup := by
  simp only [readStore, Reading.value_bind, Reading.value_pure, startup]
  simp (disch := decide) only [cold_str agree]

theorem startup_readListeners {c c' : Config} (startup : c'.toStartup = c.toStartup) :
    ((readListeners c').value getenv').toStartup = ((readListeners c).value getenv).toStartup := by
  simp only [readListeners, Reading.value_bind, Reading.value_pure, startup]
  simp (disch := decide) only [cold_str agree]

/-! ## A start under another environment -/

section Start
variable {platform : Platform}
  (sized : ∀ default_ default_', (int "MEDIA_CHUNK_MAX_BYTES" default_').value getenv' =
    (int "MEDIA_CHUNK_MAX_BYTES" default_).value getenv)
include sized

theorem startup_readFirstOf :
    (readFirstOf platform getenv').toStartup = (readFirstOf platform getenv).toStartup := by
  simp only [readFirstOf, readFirst, Reading.value_bind]
  refine startup_readBudget agree (startup_readRates agree (startup_readMedia agree
    (startup_readCaps (startup_readModels agree platform ?_)) (sized _ _)))
  rw [cold_apiKeys agree]

theorem startup_readAllOf :
    (readAllOf platform getenv').toStartup = (readAllOf platform getenv).toStartup := by
  refine startup_readStore agree platform ?_
  simp only [readDisk, Reading.value_bind, Reading.value_pure, startup_readFirstOf agree sized]

theorem startup_assembled :
    (assembled platform getenv').toStartup = (assembled platform getenv).toStartup :=
  startup_readListeners agree (startup_readAllOf agree sized)

/-- What no override reaches passes as before. -/
theorem cold_passes (cold : Cold platform getenv) : Cold platform getenv' where
  keys := by
    rw [cold_apiKeys agree]
    exact cold.keys
  baseURL := by
    have same := congrArg Prod.snd (cold_qwenBaseURL agree platform)
    exact same.trans cold.baseURL
  mediaEnabled := (cold_boolean_passes agree (by decide) _).mpr cold.mediaEnabled
  imageEnabled := (cold_boolean_passes agree (by decide) _).mpr cold.imageEnabled
  speechEnabled := (cold_boolean_passes agree (by decide) _).mpr cold.speechEnabled
  videoEnabled := (cold_boolean_passes agree (by decide) _).mpr cold.videoEnabled
  uploadMax := (cold_boundedInt_passes agree (by decide) _ _ _).mpr cold.uploadMax
  uploadTTL := (cold_boundedInt_passes agree (by decide) _ _ _).mpr cold.uploadTTL
  leaseTTL := (cold_boundedInt_passes agree (by decide) _ _ _).mpr cold.leaseTTL
  budget := by
    have budget := cold.budget
    simp only [readBudget, Reading.passes_bind, Reading.passes_pure, passes_failErr] at budget ⊢
    simp (disch := decide) only [cold_int agree, cold_int_passes agree]
    exact budget
  memory := by
    rw [startup_readFirstOf agree sized]
    exact cold.memory
  zone := by
    rw [startup_readAllOf agree sized]
    exact cold.zone
  listeners := by
    have listeners := cold.listeners
    simp only [readListeners, isolated, Reading.passes_bind, Reading.passes_pure, Reading.passes_report,
      passes_str] at listeners ⊢
    simp (disch := decide) only [cold_str agree]
    exact listeners

end Start
end Changed

end AnselmGateway.ColdSettings
