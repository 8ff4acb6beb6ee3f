import AnselmGateway.Foundation.Int64

/-! The provider-aware cost model of `internal/domain/billing`: rate cards, the
frozen plan a reservation carries, and the two conversions from authoritative
usage to pico-US dollars. Amounts are the code's own signed 64-bit integers. -/
namespace AnselmGateway.Billing

/-- A provider identity. The card table below admits one. -/
abbrev Provider := String

def providerQwen : Provider := "qwen"

def qwen37Plus : String := "qwen3.7-plus"
def qwen3ASRFlashRealtime : String := "qwen3-asr-flash-realtime"
def qwenImage20 : String := "qwen-image-2.0"
def qwenAudio30TTSFlash : String := "qwen-audio-3.0-tts-flash"
def wan27T2V : String := "wan2.7-t2v"
def wan27I2V : String := "wan2.7-i2v-2026-04-25"
def qwenTTSClone : String := "qwen-tts-clone"

def qwen37InputLimit : Int64 := 1000000
def qwen37OutputLimit : Int64 := 65536
def qwenASRInputLimit : Int64 := 120
def qwenASROutputLimit : Int64 := 0
def qwenImageInputLimit : Int64 := 6
def qwenImageOutputLimit : Int64 := 0
def qwenTTSInputLimit : Int64 := 4000
def qwenTTSOutputLimit : Int64 := 0
def qwenVideoInputLimit : Int64 := 15
def qwenVideoOutputLimit : Int64 := 0
def qwenVoiceInputLimit : Int64 := 2
def qwenVoiceOutputLimit : Int64 := 0

/-- `ErrUnknownRateCard` and `ErrCostOverflow`. -/
inductive BillingError where
  | unknownRateCard
  | costOverflow
  deriving DecidableEq, Repr

def BillingError.message : BillingError → String
  | .unknownRateCard => "billing: no rate card for provider/model"
  | .costOverflow => "billing: cost arithmetic overflow"

/-- `InputClass` is a `uint8`; the six listed values are the only ones with a
meaning, and `unlisted` is the rest of the type. -/
inductive InputClass where
  | standard
  | audioSeconds
  | images
  | characters
  | videoSeconds
  | voices
  | unlisted (code : Fin 250)
  deriving DecidableEq, Repr

/-- What tells one non-token pricing class from another: the models it prices
and the smallest reservation that means anything for it. -/
structure UnitClass where
  models : List String
  minUnits : Int64

def unitClasses : InputClass → Option UnitClass
  | .audioSeconds => some ⟨[qwen3ASRFlashRealtime], 0⟩
  | .images => some ⟨[qwenImage20], 1⟩
  | .characters => some ⟨[qwenAudio30TTSFlash], 1⟩
  | .videoSeconds => some ⟨[wan27T2V, wan27I2V], 1⟩
  | .voices => some ⟨[qwenTTSClone], 1⟩
  | .standard => none
  | .unlisted _ => none

/-- A provider-neutral token vector read from an upstream usage snapshot. -/
structure Usage where
  present : Bool := false
  malformed : Bool := false
  promptTokens : Int64 := 0
  completionTokens : Int64 := 0
  totalTokens : Int64 := 0
  cachedPromptTokens : Int64 := 0
  reasoningTokens : Int64 := 0
  deriving DecidableEq

def usageHasNegative (u : Usage) : Bool :=
  u.promptTokens < 0 || u.completionTokens < 0 || u.totalTokens < 0 ||
    u.cachedPromptTokens < 0 || u.reasoningTokens < 0

def nonNegative (v : Int64) : Int64 := if v < 0 then 0 else v

/-- Usage is cumulative, so a merge keeps the greatest value of each field.
Malformed evidence is sticky. -/
def Usage.mergeSnapshot (u v : Usage) : Usage where
  present := u.present || v.present
  malformed := u.malformed || v.malformed || usageHasNegative v
  promptTokens := max u.promptTokens (nonNegative v.promptTokens)
  completionTokens := max u.completionTokens (nonNegative v.completionTokens)
  totalTokens := max u.totalTokens (nonNegative v.totalTokens)
  cachedPromptTokens := max u.cachedPromptTokens (nonNegative v.cachedPromptTokens)
  reasoningTokens := max u.reasoningTokens (nonNegative v.reasoningTokens)

/-- One request-wide pricing band. -/
structure PricingTier where
  inputUpperBound : Int64 := 0
  inputPUSD : Int64 := 0
  cacheHitInputPUSD : Int64 := 0
  outputPUSD : Int64 := 0
  deriving DecidableEq

/-- An immutable pricing snapshot. -/
structure RateCard where
  id : String
  provider : Provider
  model : String
  inputLimit : Int64
  outputLimit : Int64
  tiers : List PricingTier
  deriving DecidableEq

/-- A card with one flat band over its whole input range. -/
def flatCard (id model : String) (inputLimit outputLimit inputPUSD : Int64) : RateCard where
  id := id
  provider := providerQwen
  model := model
  inputLimit := inputLimit
  outputLimit := outputLimit
  tiers := [{ inputUpperBound := inputLimit, inputPUSD := inputPUSD, outputPUSD := 0 }]

def qwen37PlusCard : RateCard where
  id := "qwen3.7-plus-sg-thinking-2026-07-24"
  provider := providerQwen
  model := qwen37Plus
  inputLimit := qwen37InputLimit
  outputLimit := qwen37OutputLimit
  tiers := [
    { inputUpperBound := 256000, inputPUSD := 1600000,
      cacheHitInputPUSD := 320000, outputPUSD := 1600000 },
    { inputUpperBound := qwen37InputLimit, inputPUSD := 4800000,
      cacheHitInputPUSD := 960000, outputPUSD := 4800000 }]

def qwen3ASRFlashRealtimeCard : RateCard :=
  flatCard "qwen3-asr-flash-realtime-sg-2026-07-24" qwen3ASRFlashRealtime
    qwenASRInputLimit qwenASROutputLimit 90000000

def qwenImage20Card : RateCard :=
  flatCard "qwen-image-2.0-assumed-2026-07-27" qwenImage20
    qwenImageInputLimit qwenImageOutputLimit 35000000000

def qwenAudio30TTSFlashCard : RateCard :=
  flatCard "qwen-audio-3.0-tts-flash-assumed-2026-07-28" qwenAudio30TTSFlash
    qwenTTSInputLimit qwenTTSOutputLimit 14000000

def wan27T2VCard : RateCard :=
  flatCard "wan2.7-t2v-assumed-2026-07-27" wan27T2V
    qwenVideoInputLimit qwenVideoOutputLimit 83000000000

def wan27I2VCard : RateCard :=
  flatCard "wan2.7-i2v-2026-04-25-720p-conservative-2026-08-06" wan27I2V
    qwenVideoInputLimit qwenVideoOutputLimit 105000000000

def qwenTTSCloneCard : RateCard :=
  flatCard "qwen-tts-clone-2026-07-28" qwenTTSClone
    qwenVoiceInputLimit qwenVoiceOutputLimit 200000000000

def rateCards : List (Provider × List (String × RateCard)) :=
  [(providerQwen, [
    (qwen37Plus, qwen37PlusCard),
    (qwen3ASRFlashRealtime, qwen3ASRFlashRealtimeCard),
    (qwenImage20, qwenImage20Card),
    (qwenAudio30TTSFlash, qwenAudio30TTSFlashCard),
    (wan27T2V, wan27T2VCard),
    (wan27I2V, wan27I2VCard),
    (qwenTTSClone, qwenTTSCloneCard)])]

/-- `Lookup`: unknown models fail closed. -/
def lookup (provider : Provider) (model : String) : Except BillingError RateCard :=
  match rateCards.lookup provider with
  | none => .error .unknownRateCard
  | some models =>
    match models.lookup model with
    | none => .error .unknownRateCard
    | some card => .ok card

/-- The loop of `tierForInput`: the first band that holds the tokens, unless a
band on the way is itself malformed. -/
def RateCard.scanTiers (card : RateCard) (tokens : Int64) : List PricingTier → Option PricingTier
  | [] => none
  | tier :: rest =>
    if tier.inputUpperBound ≤ 0 || tier.inputUpperBound > card.inputLimit ||
        tier.inputPUSD ≤ 0 || tier.outputPUSD < 0 || tier.cacheHitInputPUSD < 0 ||
        (card.outputLimit > 0 && tier.outputPUSD == 0) then none
    else if tokens ≤ tier.inputUpperBound then some tier
    else card.scanTiers tokens rest

def RateCard.tierForInput (card : RateCard) (tokens : Int64) : Option PricingTier :=
  if tokens < 0 || tokens > card.inputLimit || card.tiers.isEmpty then none
  else card.scanTiers tokens card.tiers

/-- Snapshotted once before a reservation and carried unchanged afterwards. -/
structure Plan where
  provider : Provider
  model : String
  rateCardID : String
  inputClass : InputClass
  promptQuote : Int64
  outputQuote : Int64
  reservedPUSD : Int64
  card : RateCard
  tier : PricingTier
  deriving DecidableEq

def checkedMul (a b : Int64) : Except BillingError Int64 :=
  if a < 0 || b < 0 || (a != 0 && b > Int64.maxValue / a) then .error .costOverflow
  else .ok (a * b)

def checkedAdd (a b : Int64) : Except BillingError Int64 :=
  if a < 0 || b < 0 || a > Int64.maxValue - b then .error .costOverflow
  else .ok (a + b)

/-- The class gate of `NewPlan`: a token class needs an output allowance, a unit
class its own model, no output and at least its smallest reservation. -/
def classAdmits (card : RateCard) (provider : Provider) (model : String)
    (inputClass : InputClass) (promptBound outputBound : Int64) : Bool :=
  if inputClass = .standard then card.outputLimit != 0
  else
    match unitClasses inputClass with
    | none => false
    | some u =>
      provider == providerQwen && u.models.contains model && outputBound == 0 &&
        !(promptBound < u.minUnits)

/-- `NewPlan` prices a conservative input/output bound and clamps nothing. -/
def newPlan (provider : Provider) (model : String) (inputClass : InputClass)
    (promptBound outputBound : Int64) : Except BillingError Plan := do
  let card ← lookup provider model
  if !classAdmits card provider model inputClass promptBound outputBound then
    throw .unknownRateCard
  if promptBound < 0 || outputBound < 0 || promptBound > card.inputLimit ||
      outputBound > card.outputLimit then
    throw .unknownRateCard
  match card.tierForInput promptBound with
  | none => throw .unknownRateCard
  | some tier =>
    let inCost ← checkedMul promptBound tier.inputPUSD
    let outCost ← checkedMul outputBound tier.outputPUSD
    let total ← checkedAdd inCost outCost
    return {
      provider := provider, model := model, rateCardID := card.id, inputClass := inputClass,
      promptQuote := promptBound, outputQuote := outputBound, reservedPUSD := total,
      card := card, tier := tier }

/-- `samePlan` compares every field but the card itself. -/
def samePlan (a b : Plan) : Bool :=
  a.provider == b.provider && a.model == b.model && a.rateCardID == b.rateCardID &&
    a.inputClass == b.inputClass && a.promptQuote == b.promptQuote &&
    a.outputQuote == b.outputQuote && a.reservedPUSD == b.reservedPUSD && a.tier == b.tier

/-- `Plan.Validate`: the plan is one `NewPlan` would produce. -/
def Plan.validate (p : Plan) : Except BillingError Unit := do
  let want ← newPlan p.provider p.model p.inputClass p.promptQuote p.outputQuote
  if !samePlan p want then throw .unknownRateCard

/-- `NewUnitPlan` prices a capability by its own unit. -/
def newUnitPlan (provider : Provider) (model : String) (inputClass : InputClass)
    (units : Int64) : Except BillingError Plan :=
  newPlan provider model inputClass units 0

/-- `UnitCost`: the caller names the unit it passes. -/
def Plan.unitCost (p : Plan) (inputClass : InputClass) (units : Int64) :
    Except BillingError Int64 := do
  if (unitClasses inputClass).isNone || p.inputClass != inputClass then throw .unknownRateCard
  if units < 0 || units > p.card.inputLimit then throw .unknownRateCard
  match p.card.tierForInput units with
  | none => throw .unknownRateCard
  | some tier => checkedMul units tier.inputPUSD

/-- `Cost` under the frozen card. `none` is the code's `ok = false`: the caller
keeps the whole reservation. -/
def Plan.cost (p : Plan) (u : Usage) : Except BillingError (Option Int64) := do
  if p.inputClass != .standard then throw .unknownRateCard
  if !u.present || u.malformed || usageHasNegative u || u.promptTokens ≤ 0 then return none
  let prompt := nonNegative u.promptTokens
  let completion := nonNegative u.completionTokens
  if u.totalTokens ≤ 0 then return none
  match checkedAdd prompt completion with
  | .error _ => return none
  | .ok visibleTotal =>
    if u.totalTokens < visibleTotal then return none
    if u.cachedPromptTokens > prompt then return none
    let derivedOutput := u.totalTokens - prompt
    if u.reasoningTokens > derivedOutput then return none
    let completion := if derivedOutput > completion then derivedOutput else completion
    match p.card.tierForInput prompt with
    | none => return none
    | some tier =>
      let hit := nonNegative u.cachedPromptTokens
      let hitCost ← checkedMul hit tier.cacheHitInputPUSD
      let missCost ← checkedMul (prompt - hit) tier.inputPUSD
      let inputCost ← checkedAdd hitCost missCost
      let outputCost ← checkedMul completion tier.outputPUSD
      let cost ← checkedAdd inputCost outputCost
      return some cost

/-! ## Built plans -/

/-- Everything a built plan went through, in order. -/
theorem newPlan_ok {provider : Provider} {model : String} {inputClass : InputClass}
    {promptBound outputBound : Int64} {plan : Plan}
    (built : newPlan provider model inputClass promptBound outputBound = .ok plan) :
    ∃ card tier inCost outCost total,
      lookup provider model = .ok card ∧
      classAdmits card provider model inputClass promptBound outputBound = true ∧
      (¬promptBound < 0 ∧ ¬outputBound < 0 ∧ ¬promptBound > card.inputLimit ∧
        ¬outputBound > card.outputLimit) ∧
      card.tierForInput promptBound = some tier ∧
      checkedMul promptBound tier.inputPUSD = .ok inCost ∧
      checkedMul outputBound tier.outputPUSD = .ok outCost ∧
      checkedAdd inCost outCost = .ok total ∧
      plan = ⟨provider, model, card.id, inputClass, promptBound, outputBound, total, card, tier⟩ := by
  unfold newPlan at built
  simp only [bind, Except.bind, throw, throwThe, MonadExceptOf.throw, pure, Except.pure] at built
  repeat' split at built
  all_goals try cases built
  rename_i _ card found admitted inRange _ tier priced _ inCost inPriced _ outCost outPriced _
    total summed
  exact ⟨card, tier, inCost, outCost, total, found, by simpa using admitted,
    by simpa [not_or, and_assoc] using inRange, priced, inPriced, outPriced, summed, rfl⟩

theorem provider_of_lookup {provider : Provider} {model : String} {card : RateCard}
    (found : lookup provider model = .ok card) : provider = providerQwen := by
  unfold lookup rateCards at found
  by_contra other
  simp [List.lookup_cons, beq_false_of_ne other] at found

/-- A validated plan is one the rate cards price: its provider is the listed
one, and a unit class was asked for at least its smallest reservation. -/
theorem validate_ok {p : Plan} (valid : p.validate = .ok ()) :
    p.provider = providerQwen ∧
      ∀ u, unitClasses p.inputClass = some u → ¬p.promptQuote < u.minUnits := by
  unfold Plan.validate at valid
  cases built : newPlan p.provider p.model p.inputClass p.promptQuote p.outputQuote with
  | error failure => simp [built, bind, Except.bind] at valid
  | ok want =>
    obtain ⟨card, _, _, _, _, found, admitted, _⟩ := newPlan_ok built
    refine ⟨provider_of_lookup found, fun u listed => ?_⟩
    unfold classAdmits at admitted
    split at admitted
    · rename_i standard
      simp [standard, unitClasses] at listed
    · rw [listed] at admitted
      simp only [Bool.and_eq_true, Bool.not_eq_true'] at admitted
      simpa using admitted.2

/-! ## Charge exposure -/

/-- `ChargeExposure` is a `uint8`; the two listed values are the only ones with a
meaning, and `chargePossible` is the zero value. -/
inductive ChargeExposure where
  | chargePossible
  | definitelyUnbilled
  | unlisted (code : Fin 254)
  deriving DecidableEq, Repr

/-- `MayHaveCharged`. -/
def ChargeExposure.mayHaveCharged (exposure : ChargeExposure) : Bool :=
  decide (exposure ≠ .definitelyUnbilled)

end AnselmGateway.Billing
