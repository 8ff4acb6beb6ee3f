import AnselmGateway.Pricing

/-! Plan validation. A plan is compared with the one its public fields would build, and
every private field but the card is compared too. No two listed cards share a band, so
the band pins the card. -/
namespace AnselmGateway.PlanValidation
open Billing Pricing

/-- No two cards share a band. -/
theorem cards_apart : ∀ card ∈ cards, ∀ other ∈ cards, ∀ tier ∈ card.tiers,
    tier ∈ other.tiers → card = other := by decide +kernel

theorem cards_named_apart : ∀ card ∈ cards, ∀ other ∈ cards, card.id = other.id → card = other := by
  decide +kernel

theorem samePlan_iff (a b : Plan) : samePlan a b = true ↔ a = { b with card := a.card } := by
  cases a
  cases b
  simp only [samePlan, Bool.and_eq_true, beq_iff_eq, Plan.mk.injEq, true_and, and_assoc]

theorem validate_eq_ok {plan : Plan} : plan.validate = .ok () ↔
    ∃ want, newPlan plan.provider plan.model plan.inputClass plan.promptQuote plan.outputQuote =
      .ok want ∧ plan = { want with card := plan.card } := by
  unfold Plan.validate
  cases built : newPlan plan.provider plan.model plan.inputClass plan.promptQuote plan.outputQuote with
  | error failure => simp [bind, Except.bind]
  | ok want =>
    simp only [bind, Except.bind, throw, throwThe, MonadExceptOf.throw, Except.ok.injEq,
      exists_eq_left', ← samePlan_iff]
    cases samePlan plan want <;> simp [pure, Except.pure]

/-- A plan that was built carries the card it was looked up by. -/
theorem newPlan_card {provider : Provider} {model : String} {inputClass : InputClass}
    {promptBound outputBound : Int64} {plan : Plan}
    (built : newPlan provider model inputClass promptBound outputBound = .ok plan) :
    lookup provider model = .ok plan.card ∧ plan.card.id = plan.rateCardID := by
  obtain ⟨card, _, _, _, _, found, _, _, _, _, _, _, rfl⟩ := newPlan_ok built
  exact ⟨found, rfl⟩

/-- Validation accepts exactly the genuine plans: what is accepted is what its own fields
build, and its card is the one it names. -/
theorem validate_iff_genuine {plan : Plan} (obtained : Obtainable plan) :
    (plan.validate = .ok () ↔ newPlan plan.provider plan.model plan.inputClass plan.promptQuote
      plan.outputQuote = .ok plan) ∧
    (plan.validate = .ok () → plan.card ∈ cards ∧ lookup plan.provider plan.model = .ok plan.card ∧
      ∀ card ∈ cards, card.id = plan.rateCardID ↔ card = plan.card) := by
  have genuine (valid : plan.validate = .ok ()) : newPlan plan.provider plan.model plan.inputClass
      plan.promptQuote plan.outputQuote = .ok plan := by
    obtain ⟨want, built, same⟩ := validate_eq_ok.mp valid
    obtain ⟨listed, _, _, quoted, _⟩ := reserved_exact built
    obtain ⟨mem, _, rated⟩ := tierForInput_ok quoted
    have banded : want.tier ∈ plan.card.tiers := by
      rcases obtained.card with ⟨_, empty⟩ | ⟨_, own⟩
      · have free : want.tier = {} := by rw [← empty, same]
        exact absurd rated.input (by rw [free]; decide)
      · have tiers : plan.tier = want.tier := by rw [same]
        rwa [← tiers]
    have own : plan.card ∈ cards := by
      rcases obtained.card with ⟨empty, _⟩ | ⟨own, _⟩
      · rw [empty] at banded
        cases banded
      · exact own
    have card : plan.card = want.card := cards_apart _ own _ listed _ banded mem
    rw [built, same, card]
  refine ⟨⟨genuine, fun built => validate_eq_ok.mpr ⟨plan, built, rfl⟩⟩, fun valid => ?_⟩
  obtain ⟨found, named⟩ := newPlan_card (genuine valid)
  have listed : plan.card ∈ cards := lookup_mem found
  refine ⟨listed, found, fun card mem => ⟨fun same => ?_, fun same => same ▸ named⟩⟩
  exact cards_named_apart _ mem _ listed (same.trans named.symm)

/-- A built plan is accepted; renamed after a dearer model it is refused, though it
keeps its own card. -/
theorem validate_iff_genuine_video : ∃ plan, newUnitPlan providerQwen wan27T2V .videoSeconds 5 = .ok plan ∧
    plan.validate = .ok () ∧ ({ plan with model := wan27I2V }).validate ≠ .ok () := by
  obtain ⟨plan, built⟩ : ∃ plan, newUnitPlan providerQwen wan27T2V .videoSeconds 5 = .ok plan := ⟨_, rfl⟩
  have genuine := (validate_iff_genuine (.built built)).1
  have renamed := (validate_iff_genuine ((Obtainable.built built).overwritten plan.provider wan27I2V
    plan.rateCardID plan.inputClass plan.promptQuote plan.outputQuote plan.reservedPUSD)).1
  cases built
  exact ⟨_, rfl, genuine.mpr (by rfl), fun valid => absurd (renamed.mp valid) (by decide +kernel)⟩

end AnselmGateway.PlanValidation
