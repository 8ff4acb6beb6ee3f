import AnselmGateway.Billing
import Mathlib.Tactic.Linarith

/-! What a token call costs. The checked arithmetic either does what the integers do
or refuses, so an accepted usage vector is billed its exact amount; and as no band of
a listed card is cheaper than the one before it, using more never costs less. -/
namespace AnselmGateway.Pricing
open Foundation Billing

/-! ## Checked arithmetic -/

theorem checkedMul_ok {a b c : Int64} : checkedMul a b = .ok c ↔
    0 ≤ a.toInt ∧ 0 ≤ b.toInt ∧ a.toInt * b.toInt = c.toInt := by
  unfold checkedMul
  simp only [Bool.or_eq_true, Bool.and_eq_true, decide_eq_true_eq, bne_iff_ne, Int64.lt_iff_toInt_lt,
    zero_toInt]
  split
  · rename_i refused
    simp only [reduceCtorEq, false_iff, not_and]
    intro left right exact_
    rcases refused with (negative | negative) | ⟨nonzero, above⟩
    · omega
    · omega
    · have pos : 0 < a.toInt := by
        rcases left.lt_or_eq with pos | zero
        · exact pos
        · exact absurd (Int64.toInt_inj.mp (zero_toInt.trans zero)).symm nonzero
      have small : b ≤ Int64.maxValue / a := by
        rw [le_maxValue_div_iff pos, exact_]
        exact toInt_le_maxInt64 c
      rw [Int64.le_iff_toInt_le] at small
      omega
  · rename_i admitted
    simp only [not_or, not_lt, not_and] at admitted
    obtain ⟨⟨left, right⟩, guard⟩ := admitted
    have small : a.toInt * b.toInt ≤ maxInt64 := by
      rcases left.lt_or_eq with pos | zero
      · have nonzero : a ≠ 0 := fun zero => by simp [zero] at pos
        rw [← le_maxValue_div_iff pos, Int64.le_iff_toInt_le]
        exact guard nonzero
      · rw [← zero, zero_mul]
        decide
    have product : (a * b).toInt = a.toInt * b.toInt := by
      have nonneg := mul_nonneg left right
      unfold maxInt64 at small
      exact toInt_mul_of_range (by omega) (by omega)
    rw [← product, Int64.toInt_inj, Except.ok.injEq]
    exact ⟨fun same => ⟨left, right, same⟩, fun same => same.2.2⟩

theorem checkedAdd_ok {a b c : Int64} : checkedAdd a b = .ok c ↔
    0 ≤ a.toInt ∧ 0 ≤ b.toInt ∧ a.toInt + b.toInt = c.toInt := by
  unfold checkedAdd
  simp only [Bool.or_eq_true, decide_eq_true_eq, Int64.lt_iff_toInt_lt, zero_toInt]
  split
  · rename_i refused
    simp only [reduceCtorEq, false_iff, not_and]
    intro left right exact_
    have small : a ≤ Int64.maxValue - b := by
      rw [le_maxValue_sub_iff right, exact_]
      exact toInt_le_maxInt64 c
    rw [Int64.le_iff_toInt_le] at small
    omega
  · rename_i admitted
    simp only [not_or, not_lt] at admitted
    obtain ⟨⟨left, right⟩, guard⟩ := admitted
    rw [← Int64.le_iff_toInt_le, le_maxValue_sub_iff right] at guard
    have sum : (a + b).toInt = a.toInt + b.toInt := by
      unfold maxInt64 at guard
      exact toInt_add_of_range (by omega) (by omega)
    rw [← sum, Int64.toInt_inj, Except.ok.injEq]
    exact ⟨fun same => ⟨left, right, same⟩, fun same => same.2.2⟩

/-! ## Bands -/

/-- The rates `tierForInput` lets through. -/
structure Rated (tier : PricingTier) : Prop where
  input : 0 < tier.inputPUSD.toInt
  cached : 0 ≤ tier.cacheHitInputPUSD.toInt
  output : 0 ≤ tier.outputPUSD.toInt

/-- A band none of whose rates exceeds the other's. -/
structure Cheaper (one other : PricingTier) : Prop where
  input : one.inputPUSD.toInt ≤ other.inputPUSD.toInt
  cached : one.cacheHitInputPUSD.toInt ≤ other.cacheHitInputPUSD.toInt
  output : one.outputPUSD.toInt ≤ other.outputPUSD.toInt

theorem Cheaper.rfl' {tier : PricingTier} : Cheaper tier tier := ⟨le_rfl, le_rfl, le_rfl⟩

/-- A card whose bands ascend and give no more for a cached token than for another. -/
structure Graded (card : RateCard) : Prop where
  ascending : card.tiers.Pairwise Cheaper
  discount : ∀ tier ∈ card.tiers, tier.cacheHitInputPUSD.toInt ≤ tier.inputPUSD.toInt

section Bands
variable {card : RateCard} {tokens tokens' : Int64} {tier tier' : PricingTier}

theorem scanTiers_ok {tiers : List PricingTier} (found : card.scanTiers tokens tiers = some tier) :
    tier ∈ tiers ∧ tokens ≤ tier.inputUpperBound ∧ Rated tier := by
  induction tiers with
  | nil => cases found
  | cons head rest ih =>
    rw [RateCard.scanTiers] at found
    split at found
    · cases found
    · rename_i sound
      split at found
      · rename_i within
        cases found
        simp only [Bool.or_eq_true, decide_eq_true_eq, not_or, Int64.lt_iff_toInt_lt,
          Int64.le_iff_toInt_le, zero_toInt, not_le, not_lt] at sound
        exact ⟨List.mem_cons_self, within, sound.1.1.1.2, sound.1.2, sound.1.1.2⟩
      · obtain ⟨mem, rest⟩ := ih found
        exact ⟨List.mem_cons_of_mem _ mem, rest⟩

/-- More tokens are never found in an earlier band. -/
theorem scanTiers_mono {tiers : List PricingTier} (ascending : tiers.Pairwise Cheaper)
    (more : tokens ≤ tokens') (found : card.scanTiers tokens tiers = some tier)
    (found' : card.scanTiers tokens' tiers = some tier') : Cheaper tier tier' := by
  induction tiers with
  | nil => cases found
  | cons head rest ih =>
    obtain ⟨first, ascending⟩ := List.pairwise_cons.mp ascending
    obtain ⟨mem', _, _⟩ := scanTiers_ok found'
    rw [RateCard.scanTiers] at found found'
    split at found
    · cases found
    · rename_i sound
      rw [if_neg sound] at found'
      split at found
      · cases found
        rcases List.mem_cons.mp mem' with rfl | later
        · exact Cheaper.rfl'
        · exact first _ later
      · rename_i beyond
        have beyond' : ¬tokens' ≤ head.inputUpperBound := fun within =>
          beyond (Int64.le_trans more within)
        rw [if_neg beyond'] at found'
        exact ih ascending found found'

theorem tierForInput_ok (found : card.tierForInput tokens = some tier) :
    tier ∈ card.tiers ∧ tokens ≤ card.inputLimit ∧ Rated tier := by
  unfold RateCard.tierForInput at found
  split at found
  · cases found
  · rename_i within
    simp only [Bool.or_eq_true, decide_eq_true_eq, not_or, Int64.not_lt] at within
    obtain ⟨mem, _, rated⟩ := scanTiers_ok found
    exact ⟨mem, within.1.2, rated⟩

theorem tierForInput_mono (graded : Graded card) (more : tokens ≤ tokens')
    (found : card.tierForInput tokens = some tier) (found' : card.tierForInput tokens' = some tier') :
    Cheaper tier tier' := by
  unfold RateCard.tierForInput at found found'
  split at found
  · cases found
  · split at found'
    · cases found'
    · exact scanTiers_mono graded.ascending more found found'

end Bands

/-! ## The bill -/

/-- The tokens billed as output: what the total leaves beside the prompt, where that
is more than what was seen. -/
def billableOutput (u : Usage) : ℤ :=
  max u.completionTokens.toInt (u.totalTokens.toInt - u.promptTokens.toInt)

/-- What some tokens cost in a band. -/
def charged (tier : PricingTier) (hit prompt output : ℤ) : ℤ :=
  hit * tier.cacheHitInputPUSD.toInt + (prompt - hit) * tier.inputPUSD.toInt +
    output * tier.outputPUSD.toInt

/-- What a vector costs in a band. -/
def bill (tier : PricingTier) (u : Usage) : ℤ :=
  charged tier u.cachedPromptTokens.toInt u.promptTokens.toInt (billableOutput u)

/-- A vector that is evidence of what was used: it agrees with itself and fits the card. -/
structure Authoritative (card : RateCard) (u : Usage) : Prop where
  present : u.present = true
  wellFormed : u.malformed = false
  prompt : 0 < u.promptTokens.toInt
  completion : 0 ≤ u.completionTokens.toInt
  cachedNonneg : 0 ≤ u.cachedPromptTokens.toInt
  reasoningNonneg : 0 ≤ u.reasoningTokens.toInt
  visible : u.promptTokens.toInt + u.completionTokens.toInt ≤ u.totalTokens.toInt
  cached : u.cachedPromptTokens.toInt ≤ u.promptTokens.toInt
  reasoning : u.reasoningTokens.toInt ≤ u.totalTokens.toInt - u.promptTokens.toInt
  limit : u.promptTokens ≤ card.inputLimit

/-- The arithmetic at the end of `Cost`. -/
def amount (tier : PricingTier) (hit miss output : Int64) : Except BillingError (Option Int64) := do
  let hitCost ← checkedMul hit tier.cacheHitInputPUSD
  let missCost ← checkedMul miss tier.inputPUSD
  let inputCost ← checkedAdd hitCost missCost
  let outputCost ← checkedMul output tier.outputPUSD
  let cost ← checkedAdd inputCost outputCost
  return some cost

theorem amount_ok {tier : PricingTier} (rated : Rated tier) {hit miss output charge : Int64}
    (hitNonneg : 0 ≤ hit.toInt) (missNonneg : 0 ≤ miss.toInt) (outputNonneg : 0 ≤ output.toInt) :
    amount tier hit miss output = .ok (some charge) ↔
      charge.toInt = hit.toInt * tier.cacheHitInputPUSD.toInt + miss.toInt * tier.inputPUSD.toInt +
        output.toInt * tier.outputPUSD.toInt := by
  have hitCost := mul_nonneg hitNonneg rated.cached
  have missCost := mul_nonneg missNonneg rated.input.le
  have outputCost := mul_nonneg outputNonneg rated.output
  unfold amount
  simp only [bind, Except.bind, pure, Except.pure]
  constructor
  · intro charged
    repeat' split at charged
    all_goals try cases charged
    rename_i _ _ hits _ _ misses _ _ inputs _ _ outputs _ total
    obtain ⟨_, _, hits⟩ := checkedMul_ok.mp hits
    obtain ⟨_, _, misses⟩ := checkedMul_ok.mp misses
    obtain ⟨_, _, inputs⟩ := checkedAdd_ok.mp inputs
    obtain ⟨_, _, outputs⟩ := checkedMul_ok.mp outputs
    obtain ⟨_, _, total⟩ := checkedAdd_ok.mp total
    omega
  · intro exact_
    have small := toInt_le_maxInt64 charge
    obtain ⟨hits, isHits⟩ := exists_toInt hitCost (by omega)
    obtain ⟨misses, isMisses⟩ := exists_toInt missCost (by omega)
    obtain ⟨inputs, isInputs⟩ : ∃ inputs : Int64, inputs.toInt = hits.toInt + misses.toInt :=
      exists_toInt (by omega) (by omega)
    obtain ⟨outputs, isOutputs⟩ := exists_toInt outputCost (by omega)
    rw [checkedMul_ok.mpr ⟨hitNonneg, rated.cached, isHits.symm⟩]
    dsimp only
    rw [checkedMul_ok.mpr ⟨missNonneg, rated.input.le, isMisses.symm⟩]
    dsimp only
    rw [checkedAdd_ok.mpr ⟨by omega, by omega, isInputs.symm⟩]
    dsimp only
    rw [checkedMul_ok.mpr ⟨outputNonneg, rated.output, isOutputs.symm⟩]
    dsimp only
    have total : checkedAdd inputs outputs = .ok charge :=
      checkedAdd_ok.mpr ⟨by omega, by omega, by omega⟩
    rw [total]

section Cost
variable {plan : Plan} {u : Usage}

theorem nonNegative_of_nonneg {v : Int64} (nonneg : 0 ≤ v.toInt) : nonNegative v = v := by
  unfold nonNegative
  rw [if_neg (Int64.not_lt.mpr (toInt_nonneg.mp nonneg))]

/-- What `Cost` comes to for a token plan: an authoritative vector in one of the card's
bands goes into the arithmetic, and any other is declined. -/
theorem cost_standard (standard : plan.inputClass = .standard) :
    (∃ tier, Authoritative plan.card u ∧ plan.card.tierForInput u.promptTokens = some tier ∧
      ∃ miss output : Int64, miss.toInt = u.promptTokens.toInt - u.cachedPromptTokens.toInt ∧
        output.toInt = billableOutput u ∧
        plan.cost u = amount tier u.cachedPromptTokens miss output) ∨
    (plan.cost u = .ok none ∧
      (Authoritative plan.card u → plan.card.tierForInput u.promptTokens = none)) := by
  unfold Plan.cost
  rw [if_neg (by simp [standard])]
  simp only [bind, Except.bind, pure, Except.pure]
  split
  · rename_i refused
    simp only [Bool.or_eq_true, usageHasNegative, Int64.lt_iff_toInt_lt, Int64.le_iff_toInt_le,
      decide_eq_true_eq, zero_toInt, Bool.not_eq_true'] at refused
    refine .inr ⟨rfl, fun evidence => ?_⟩
    obtain ⟨present, wellFormed, prompt, completion, cached, reasoning, visible, _⟩ := evidence
    rw [present, wellFormed] at refused
    simp only [reduceCtorEq, false_or] at refused
    omega
  rename_i gate
  simp only [Bool.or_eq_true, usageHasNegative, Int64.lt_iff_toInt_lt, Int64.le_iff_toInt_le,
    decide_eq_true_eq, zero_toInt, Bool.not_eq_true', not_or, not_lt, not_le] at gate
  obtain ⟨⟨⟨present, wellFormed⟩, ⟨⟨⟨_, completion⟩, total⟩, cached⟩, reasoning⟩, prompt⟩ := gate
  rw [nonNegative_of_nonneg prompt.le, nonNegative_of_nonneg completion,
    nonNegative_of_nonneg cached]
  have derived : (u.totalTokens - u.promptTokens).toInt =
      u.totalTokens.toInt - u.promptTokens.toInt := toInt_sub_of_nonneg total prompt.le
  split
  · rename_i empty
    rw [Int64.le_iff_toInt_le, zero_toInt] at empty
    refine .inr ⟨rfl, fun evidence => ?_⟩
    have visible := evidence.visible
    omega
  cases summed : checkedAdd u.promptTokens u.completionTokens with
  | error failure =>
    refine .inr ⟨rfl, fun evidence => ?_⟩
    have visible := evidence.visible
    have small := toInt_le_maxInt64 u.totalTokens
    obtain ⟨sum, isSum⟩ : ∃ sum : Int64, sum.toInt = u.promptTokens.toInt + u.completionTokens.toInt :=
      exists_toInt (by omega) (by omega)
    rw [checkedAdd_ok.mpr ⟨prompt.le, completion, isSum.symm⟩] at summed
    cases summed
  | ok visibleTotal =>
    obtain ⟨_, _, isTotal⟩ := checkedAdd_ok.mp summed
    dsimp only
    split
    · rename_i short
      rw [Int64.lt_iff_toInt_lt] at short
      refine .inr ⟨rfl, fun evidence => ?_⟩
      have visible := evidence.visible
      omega
    · rename_i visible
      rw [Int64.lt_iff_toInt_lt, not_lt] at visible
      split
      · rename_i above
        rw [gt_iff_lt, Int64.lt_iff_toInt_lt] at above
        exact .inr ⟨rfl, fun evidence => absurd evidence.cached (not_le.mpr above)⟩
      · rename_i hits
        rw [gt_iff_lt, Int64.lt_iff_toInt_lt, not_lt] at hits
        split
        · rename_i above
          rw [gt_iff_lt, Int64.lt_iff_toInt_lt, derived] at above
          exact .inr ⟨rfl, fun evidence => absurd evidence.reasoning (not_le.mpr above)⟩
        · rename_i hidden
          rw [gt_iff_lt, Int64.lt_iff_toInt_lt, derived, not_lt] at hidden
          cases found : plan.card.tierForInput u.promptTokens with
          | none => exact .inr ⟨rfl, fun _ => rfl⟩
          | some tier =>
            obtain ⟨_, limit, _⟩ := tierForInput_ok found
            refine .inl ⟨tier, ⟨by simpa using present, by simpa using wellFormed, prompt, completion,
              cached, reasoning, by omega, hits, hidden, limit⟩, rfl, _, _,
              toInt_sub_of_nonneg prompt.le cached, ?_, rfl⟩
            simp only [gt_iff_lt, Int64.lt_iff_toInt_lt, derived, billableOutput]
            split
            · rename_i more
              rw [derived, max_eq_right more.le]
            · rename_i less
              rw [max_eq_left (not_lt.mp less)]

/-- A vector is billed exactly if it is authoritative and its exact cost is an amount. -/
theorem cost_eq_some {charge : Int64} : plan.cost u = .ok (some charge) ↔
    plan.inputClass = .standard ∧ Authoritative plan.card u ∧
      ∃ tier, plan.card.tierForInput u.promptTokens = some tier ∧ charge.toInt = bill tier u := by
  by_cases standard : plan.inputClass = .standard
  · have decided : _ ∨ plan.cost u = _ ∧ _ := cost_standard standard
    rcases decided with ⟨tier, evidence, found, miss, output, isMiss, isOutput, priced⟩ | ⟨declined, unpriced⟩
    · obtain ⟨_, _, rated⟩ := tierForInput_ok found
      have outputNonneg : 0 ≤ output.toInt := by
        rw [isOutput]
        exact evidence.completion.trans (le_max_left _ _)
      have cached := evidence.cached
      rw [priced, amount_ok rated evidence.cachedNonneg (by omega) outputNonneg, isMiss, isOutput,
        ← charged, ← bill]
      constructor
      · intro exact_
        exact ⟨standard, evidence, tier, found, exact_⟩
      · rintro ⟨_, _, tier', found', exact_⟩
        cases found.symm.trans found'
        exact exact_
    · rw [declined]
      refine ⟨nofun, fun ⟨_, evidence, tier, found, _⟩ => ?_⟩
      rw [unpriced evidence] at found
      cases found
  · refine ⟨fun charged => ?_, fun billed => absurd billed.1 standard⟩
    unfold Plan.cost at charged
    rw [if_pos (by simpa using standard)] at charged
    cases charged

end Cost

/-! ## The cards listed -/

/-- Every card of the table. -/
def cards : List RateCard := rateCards.flatMap fun models => models.2.map Prod.snd

instance : DecidableRel Cheaper := fun one other =>
  decidable_of_iff (one.inputPUSD.toInt ≤ other.inputPUSD.toInt ∧
    one.cacheHitInputPUSD.toInt ≤ other.cacheHitInputPUSD.toInt ∧
    one.outputPUSD.toInt ≤ other.outputPUSD.toInt)
    ⟨fun ⟨input, cached, output⟩ => ⟨input, cached, output⟩,
      fun ⟨input, cached, output⟩ => ⟨input, cached, output⟩⟩

instance : DecidablePred Graded := fun card =>
  decidable_of_iff (card.tiers.Pairwise Cheaper ∧
    ∀ tier ∈ card.tiers, tier.cacheHitInputPUSD.toInt ≤ tier.inputPUSD.toInt)
    ⟨fun ⟨ascending, discount⟩ => ⟨ascending, discount⟩,
      fun ⟨ascending, discount⟩ => ⟨ascending, discount⟩⟩

theorem lookup_mem {provider : Provider} {model : String} {card : RateCard}
    (found : lookup provider model = .ok card) : card ∈ cards := by
  unfold lookup at found
  split at found
  · cases found
  · rename_i models listed
    split at found
    · cases found
    · rename_i card' priced
      cases found
      obtain ⟨_, _, split_, _⟩ := List.lookup_eq_some_iff.mp listed
      obtain ⟨_, _, split_', _⟩ := List.lookup_eq_some_iff.mp priced
      refine List.mem_flatMap.mpr ⟨(provider, models), by simp [split_], ?_⟩
      exact List.mem_map.mpr ⟨(model, card), by simp [split_'], rfl⟩

theorem cards_graded : ∀ card ∈ cards, Graded card := by decide +kernel

/-- More tokens of every kind, fewer of them cached, in a band that is no cheaper. -/
theorem charged_mono {tier tier' : PricingTier} (rated : Rated tier) (cheaper : Cheaper tier tier')
    (discount : tier.cacheHitInputPUSD.toInt ≤ tier.inputPUSD.toInt)
    {hit hit' prompt prompt' output output' : ℤ} (hitNonneg : 0 ≤ hit') (hits : hit' ≤ hit)
    (within : hit' ≤ prompt') (prompts : prompt ≤ prompt') (outputNonneg : 0 ≤ output')
    (outputs : output ≤ output') :
    charged tier hit prompt output ≤ charged tier' hit' prompt' output' := by
  have more : charged tier hit prompt output ≤ charged tier hit' prompt' output' := by
    have cached := mul_nonneg (sub_nonneg.mpr hits) (sub_nonneg.mpr discount)
    have asked := mul_nonneg (sub_nonneg.mpr prompts) rated.input.le
    have answered := mul_nonneg (sub_nonneg.mpr outputs) rated.output
    unfold charged
    linarith
  have dearer : charged tier hit' prompt' output' ≤ charged tier' hit' prompt' output' := by
    unfold charged
    gcongr
    · exact cheaper.cached
    · exact cheaper.input
    · exact cheaper.output
  exact more.trans dearer

/-! ## Quotes -/

theorem Authoritative.output {card : RateCard} {u : Usage} (evidence : Authoritative card u) :
    0 ≤ billableOutput u :=
  evidence.completion.trans (le_max_left _ _)

theorem bill_nonneg {card : RateCard} {tier : PricingTier} {u : Usage} (rated : Rated tier)
    (evidence : Authoritative card u) : 0 ≤ bill tier u := by
  have hits := mul_nonneg evidence.cachedNonneg rated.cached
  have misses := mul_nonneg (sub_nonneg.mpr evidence.cached) rated.input.le
  have answered := mul_nonneg evidence.output rated.output
  unfold bill charged
  omega

/-- What a plan reserves is what its quotes cost uncached in the band of the prompt quote. -/
theorem reserved_exact {provider : Provider} {model : String} {inputClass : InputClass}
    {promptBound outputBound : Int64} {plan : Plan}
    (built : newPlan provider model inputClass promptBound outputBound = .ok plan) :
    plan.card ∈ cards ∧ plan.promptQuote = promptBound ∧ plan.outputQuote = outputBound ∧
      plan.card.tierForInput promptBound = some plan.tier ∧
      plan.reservedPUSD.toInt = charged plan.tier 0 promptBound.toInt outputBound.toInt := by
  obtain ⟨card, tier, inCost, outCost, total, found, _, _, priced, inPriced, outPriced, summed,
    rfl⟩ := newPlan_ok built
  obtain ⟨_, _, isIn⟩ := checkedMul_ok.mp inPriced
  obtain ⟨_, _, isOut⟩ := checkedMul_ok.mp outPriced
  obtain ⟨_, _, isTotal⟩ := checkedAdd_ok.mp summed
  refine ⟨lookup_mem found, rfl, rfl, priced, ?_⟩
  simp only [charged, zero_mul, sub_zero, zero_add]
  omega

/-- The quote bounds the bill: within its quotes, a vector that is not declined is billed
exactly, and for no more than was reserved. -/
theorem cost_within_quote {provider : Provider} {model : String} {promptBound outputBound : Int64}
    {plan : Plan} {u : Usage}
    (built : newPlan provider model .standard promptBound outputBound = .ok plan)
    (accepted : plan.cost u ≠ .ok none) (prompt : u.promptTokens ≤ plan.promptQuote)
    (output : billableOutput u ≤ plan.outputQuote.toInt) :
    ∃ tier charge, plan.card.tierForInput u.promptTokens = some tier ∧
      plan.cost u = .ok (some charge) ∧ charge.toInt = bill tier u ∧ charge ≤ plan.reservedPUSD := by
  have standard : plan.inputClass = .standard := by
    obtain ⟨_, _, _, _, _, _, _, _, _, _, _, _, rfl⟩ := newPlan_ok built
    rfl
  obtain ⟨listed, isPrompt, isOutput, quoted, reserved⟩ := reserved_exact built
  rw [isPrompt] at prompt
  rw [isOutput] at output
  rcases cost_standard standard with ⟨tier, evidence, found, _⟩ | ⟨declined, _⟩
  · have graded := cards_graded _ listed
    obtain ⟨mem, _, rated⟩ := tierForInput_ok found
    have bounded : bill tier u ≤ plan.reservedPUSD.toInt := by
      rw [reserved, bill]
      exact charged_mono rated (tierForInput_mono graded prompt found quoted)
        (graded.discount tier mem) le_rfl evidence.cachedNonneg
        (evidence.prompt.le.trans (Int64.le_iff_toInt_le.mp prompt))
        (Int64.le_iff_toInt_le.mp prompt) (evidence.output.trans output) output
    obtain ⟨charge, exact_⟩ := exists_toInt (bill_nonneg rated evidence)
      (bounded.trans (toInt_le_maxInt64 _))
    refine ⟨tier, charge, found, cost_eq_some.mpr ⟨standard, evidence, tier, found, exact_⟩, exact_, ?_⟩
    rw [Int64.le_iff_toInt_le, exact_]
    exact bounded
  · exact absurd declined accepted

/-- A call of the chat model that stays within its quotes. -/
theorem cost_within_quote_chat : ∃ plan tier charge,
    newPlan providerQwen qwen37Plus .standard 300000 4000 = .ok plan ∧
    plan.card.tierForInput 200000 = some tier ∧
    plan.cost ⟨true, false, 200000, 1000, 203000, 50000, 1500⟩ = .ok (some charge) ∧
    charge.toInt = bill tier ⟨true, false, 200000, 1000, 203000, 50000, 1500⟩ ∧
    charge ≤ plan.reservedPUSD := by
  obtain ⟨plan, built⟩ : ∃ plan, newPlan providerQwen qwen37Plus .standard 300000 4000 = .ok plan :=
    ⟨_, rfl⟩
  obtain ⟨_, isPrompt, isOutput, _⟩ := reserved_exact built
  have accepted : plan.cost ⟨true, false, 200000, 1000, 203000, 50000, 1500⟩ ≠ .ok none := by
    cases built
    decide +kernel
  obtain ⟨tier, charge, bounded⟩ := cost_within_quote built accepted (by rw [isPrompt]; decide)
    (by rw [isOutput]; decide)
  exact ⟨plan, tier, charge, built, bounded⟩

/-! ## Every plan there can be -/

/-- The plans of the program: its card and its band are private, so they are those of
the zero value or of a plan that was built; the other fields anyone may overwrite. -/
inductive Obtainable : Plan → Prop
  | zero : Obtainable ⟨"", "", "", .standard, 0, 0, 0, ⟨"", "", "", 0, 0, []⟩, {}⟩
  | built {provider : Provider} {model : String} {inputClass : InputClass}
      {promptBound outputBound : Int64} {plan : Plan}
      (built : newPlan provider model inputClass promptBound outputBound = .ok plan) :
      Obtainable plan
  | overwritten {plan : Plan} (obtained : Obtainable plan) (provider : Provider)
      (model rateCardID : String) (inputClass : InputClass)
      (promptQuote outputQuote reservedPUSD : Int64) :
      Obtainable { plan with
        provider := provider, model := model, rateCardID := rateCardID, inputClass := inputClass,
        promptQuote := promptQuote, outputQuote := outputQuote, reservedPUSD := reservedPUSD }

/-- The private part of a plan is empty, or a listed card and one of its bands. -/
theorem Obtainable.card {plan : Plan} (obtained : Obtainable plan) :
    (plan.card.tiers = [] ∧ plan.tier = {}) ∨ (plan.card ∈ cards ∧ plan.tier ∈ plan.card.tiers) := by
  induction obtained with
  | zero => exact .inl ⟨rfl, rfl⟩
  | built built =>
    obtain ⟨listed, _, _, quoted, _⟩ := reserved_exact built
    exact .inr ⟨listed, (tierForInput_ok quoted).1⟩
  | overwritten _ _ _ _ _ _ _ _ ih => exact ih

theorem Obtainable.graded {plan : Plan} (obtained : Obtainable plan) : Graded plan.card := by
  rcases obtained.card with ⟨empty, _⟩ | ⟨listed, _⟩
  · exact ⟨by simp [empty], by simp [empty]⟩
  · exact cards_graded _ listed

/-- `Cost` never underbills, and bills no less for more. -/
theorem cost_exact_monotone {plan : Plan} (obtained : Obtainable plan) :
    (∀ u, plan.cost u = .ok none ∨ (∃ failure, plan.cost u = .error failure) ∨
      ∃ tier charge, plan.cost u = .ok (some charge) ∧ Authoritative plan.card u ∧
        plan.card.tierForInput u.promptTokens = some tier ∧
        charge.toInt = bill tier u ∧ 0 ≤ charge) ∧
    ∀ u v charge charge', plan.cost u = .ok (some charge) → plan.cost v = .ok (some charge') →
      u.promptTokens ≤ v.promptTokens → billableOutput u ≤ billableOutput v →
      v.cachedPromptTokens ≤ u.cachedPromptTokens → charge ≤ charge' := by
  constructor
  · intro u
    cases priced : plan.cost u with
    | error failure => exact .inr (.inl ⟨failure, rfl⟩)
    | ok charged =>
      cases charged with
      | none => exact .inl rfl
      | some charge =>
        obtain ⟨_, evidence, tier, found, exact_⟩ := cost_eq_some.mp priced
        obtain ⟨_, _, rated⟩ := tierForInput_ok found
        refine .inr (.inr ⟨tier, charge, rfl, evidence, found, exact_, ?_⟩)
        rw [← toInt_nonneg, exact_]
        exact bill_nonneg rated evidence
  · intro u v charge charge' priced priced' prompts outputs hits
    obtain ⟨_, _, tier, found, exact_⟩ := cost_eq_some.mp priced
    obtain ⟨_, evidence, tier', found', exact_'⟩ := cost_eq_some.mp priced'
    obtain ⟨mem, _, rated⟩ := tierForInput_ok found
    rw [Int64.le_iff_toInt_le] at prompts hits
    rw [Int64.le_iff_toInt_le, exact_, exact_']
    exact charged_mono rated
      (tierForInput_mono obtained.graded (Int64.le_iff_toInt_le.mpr prompts) found found')
      (obtained.graded.discount tier mem) evidence.cachedNonneg hits evidence.cached prompts
      evidence.output outputs

/-- A plan whose public fields were overwritten still bills by its own card. -/
theorem cost_exact_monotone_overwritten : ∃ (plan : Plan) (charge charge' : Int64),
    plan.rateCardID = "forged" ∧
    plan.cost ⟨true, false, 256000, 0, 256010, 0, 0⟩ = .ok (some charge) ∧
    plan.cost ⟨true, false, 256001, 0, 256011, 0, 0⟩ = .ok (some charge') ∧ charge ≤ charge' := by
  obtain ⟨plan, built⟩ : ∃ plan, newPlan providerQwen qwen37Plus .standard 300000 4000 = .ok plan :=
    ⟨_, rfl⟩
  have priced : ({ plan with rateCardID := "forged" }).cost ⟨true, false, 256000, 0, 256010, 0, 0⟩ =
      .ok (some 409616000000) := by
    cases built
    decide +kernel
  have priced' : ({ plan with rateCardID := "forged" }).cost ⟨true, false, 256001, 0, 256011, 0, 0⟩ =
      .ok (some 1228852800000) := by
    cases built
    decide +kernel
  obtain ⟨_, monotone⟩ := cost_exact_monotone ((Obtainable.built built).overwritten plan.provider
    plan.model "forged" plan.inputClass plan.promptQuote plan.outputQuote plan.reservedPUSD)
  exact ⟨_, _, _, rfl, priced, priced', monotone _ _ _ _ priced priced' (by decide) (by decide)
    (by decide)⟩

end AnselmGateway.Pricing
