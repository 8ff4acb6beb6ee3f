import AnselmGateway.Upstream

/-! One call, several attempts: only proofs that nothing was charged let the loop
go on, so at most the last attempt can have been charged, and what the call
reports covers them all. -/
namespace AnselmGateway.Failover
open Foundation Billing Upstream

/-- The provider may have charged this attempt: it succeeded, or nothing proves
otherwise. -/
def Charged (o : Outcome) : Prop := o.faultClass = .ok ∨ o.exposure.mayHaveCharged = true

instance (o : Outcome) : Decidable (Charged o) := inferInstanceAs (Decidable (_ ∨ _))

theorem not_charged_iff {o : Outcome} :
    ¬Charged o ↔ o.faultClass ≠ .ok ∧ o.exposure = .definitelyUnbilled := by
  simp [Charged, ChargeExposure.mayHaveCharged]

/-! ## One attempt -/

section Attempt
variable {env : Environment} {t : Transport} {one : Try}

/-- Every outcome comes out of the one classification. -/
theorem tryOnce_outcome :
    (∃ cls, (tryOnce env t one).1 = resolve cls) ∨
      ∃ reason, (tryOnce env t one).1 = resolveRejected reason := by
  unfold tryOnce
  split
  · exact .inl ⟨.upstream, rfl⟩
  · split
    · exact .inl ⟨_, rfl⟩
    · dsimp only
      split
      · split
        · exact .inr ⟨_, rfl⟩
        · exact .inl ⟨_, rfl⟩
      · split
        · exact .inl ⟨_, rfl⟩
        · split
          · exact .inl ⟨.timeout, rfl⟩
          · exact .inl ⟨.ok, rfl⟩

/-- Only an attempt that was definitely not billed may be followed by another. -/
theorem not_charged_of_retryable (retryable : (tryOnce env t one).1.retryable = true) :
    ¬Charged (tryOnce env t one).1 := by
  rw [not_charged_iff]
  have outcome : (∃ cls, (tryOnce env t one).1 = resolve cls) ∨
      ∃ reason, (tryOnce env t one).1 = resolveRejected reason := tryOnce_outcome
  rcases outcome with ⟨cls, same⟩ | ⟨reason, same⟩
  · rw [same] at retryable ⊢
    cases cls with
    | keyAuth | keyOpen => exact ⟨nofun, rfl⟩
    | ok | clientCancel | busy | timeout | upstream | upstreamFinal | upstreamRefused
      | upstreamRejected => exact absurd retryable (by decide)
  · rw [same] at retryable
    exact absurd retryable Bool.false_ne_true

/-- What stands behind the proof: no request left, or the provider answered with
an explicit refusal. -/
theorem unbilled_explained (unbilled : ¬Charged (tryOnce env t one).1) :
    one.built = true ∧ ((t.roundTrip env one.leg).1 = .error .allKeysGated ∨
      (t.roundTrip env one.leg).1 = .error .noUsableAPIKey ∨
      (t.roundTrip env one.leg).1 = .error .keyOpen ∨
      ∃ resp, (t.roundTrip env one.leg).1 = .ok resp ∧
        300 ≤ resp.statusCode ∧ resp.statusCode < 500) := by
  have peeked (err : NetError) (done out : Bool) : Charged (resolve (classifyPeekErr err done out)) := by
    unfold classifyPeekErr
    split
    · exact .inr rfl
    · split <;> exact .inr rfl
  unfold tryOnce at unbilled
  cases built : one.built with
  | false => exact absurd (.inr (by simp [built, resolve, ChargeExposure.mayHaveCharged])) unbilled
  | true =>
    refine ⟨rfl, ?_⟩
    rw [built] at unbilled
    rcases trip : t.roundTrip env one.leg with ⟨err | resp, after⟩
    · cases err with
      | allKeysGated => exact .inl rfl
      | noUsableAPIKey => exact .inr (.inl rfl)
      | keyOpen => exact .inr (.inr (.inl rfl))
      | network err =>
        rw [trip] at unbilled
        exact absurd (peeked _ _ _) unbilled
    · refine .inr (.inr (.inr ⟨resp, rfl, ?_⟩))
      rw [trip] at unbilled
      simp only [Bool.not_true, Bool.false_eq_true, if_false] at unbilled
      split at unbilled
      · by_contra outside
        -- Outside 300 to 499 the class is an ambiguous fault.
        have final : classifyStatus resp.statusCode = .timeout ∨
            classifyStatus resp.statusCode = .upstream ∨
            classifyStatus resp.statusCode = .upstreamFinal := by
          unfold classifyStatus
          split_ifs <;> first | omega | simp
        rcases final with same | same | same <;>
          · rw [same] at unbilled
            exact unbilled (.inr rfl)
      · split at unbilled
        · exact absurd (peeked _ _ _) unbilled
        · split at unbilled
          · exact absurd (.inr rfl) unbilled
          · exact absurd (.inl rfl) unbilled

end Attempt

/-! ## The loop -/

/-- Everything before the last attempt was not charged, and a failure reported as
unbilled covers the last as well. -/
structure Covered (made : List Outcome) (outcome : Outcome) : Prop where
  earlier : ∀ o ∈ made.dropLast, ¬Charged o
  reported : ¬Charged outcome → ∀ o ∈ made, ¬Charged o

theorem covered_nil (outcome : Outcome) : Covered [] outcome where
  earlier _ member := absurd member List.not_mem_nil
  reported _ _ member := absurd member List.not_mem_nil

/-- An attempt stands for itself. -/
theorem covered_last (o : Outcome) : Covered [o] o where
  earlier _ member := absurd member List.not_mem_nil
  reported unbilled other member := by
    rw [List.mem_singleton.mp member]
    exact unbilled

/-- A further run after an attempt that was not charged. -/
theorem Covered.cons {made : List Outcome} {o outcome : Outcome} (covered : Covered made outcome)
    (unbilled : ¬Charged o) : Covered (o :: made) outcome where
  earlier other member := by
    cases made with
    | nil => exact absurd member List.not_mem_nil
    | cons next rest =>
      rcases List.mem_cons.mp member with rfl | later
      · exact unbilled
      · exact covered.earlier other later
  reported proved other member := by
    rcases List.mem_cons.mp member with rfl | later
    · exact unbilled
    · exact covered.reported proved other later

theorem covered_attemptFrom (env : Environment) (p : RetryPolicy) (turns : ℕ → Turn) (left n : ℕ)
    (t : Transport) (last : Outcome) :
    Covered (attemptFrom env p turns left n t last).made
      (attemptFrom env p turns left n t last).outcome := by
  induction left generalizing n t last with
  | zero => exact covered_nil last
  | succ left ih =>
    unfold attemptFrom
    dsimp only
    split
    · exact covered_last _
    · split
      · exact covered_last _
      · rename_i open_
        have retryable : (tryOnce env t (turns n).one).1.retryable = true := by
          simp only [Bool.or_eq_true, Bool.not_eq_true', decide_eq_true_eq, not_or] at open_
          simpa using open_.1
        have unbilled := not_charged_of_retryable retryable
        split
        · exact (covered_nil _).cons unbilled
        · exact (ih _ _ _).cons unbilled

theorem covered_doCall (env : Environment) (c : Client) (breaker : Breaker) (turns : ℕ → Turn) :
    (∀ o ∈ (doCall env c breaker turns).made.dropLast, ¬Charged o) ∧
      ∀ failure, (doCall env c breaker turns).result = .error failure →
        failure.exposure = .definitelyUnbilled →
        ∀ o ∈ (doCall env c breaker turns).made, ¬Charged o := by
  have covered := covered_attemptFrom env c.retry turns c.retry.maxAttempts 1 c.transport
    { faultClass := .ok }
  -- Where no attempt was made there is nothing to cover.
  have nothing (failure : CallFailure) :
      (∀ o ∈ (⟨[], .error failure⟩ : Called).made.dropLast, ¬Charged o) ∧
        ∀ other, (⟨[], .error failure⟩ : Called).result = .error other →
          other.exposure = .definitelyUnbilled →
          ∀ o ∈ (⟨[], .error failure⟩ : Called).made, ¬Charged o :=
    ⟨fun _ member => absurd member List.not_mem_nil,
      fun _ _ _ _ member => absurd member List.not_mem_nil⟩
  unfold doCall
  split
  · exact nothing _
  · split
    · exact nothing _
    · split
      · exact nothing _
      · dsimp only
        split
        · split
          · exact nothing _
          · refine ⟨covered.earlier, fun failure failed => ?_⟩
            cases failed
        · rename_i notOk
          refine ⟨covered.earlier, fun failure failed unbilled => covered.reported ?_⟩
          cases failed
          exact not_charged_iff.mpr ⟨notOk, unbilled⟩

/-- **Failover never hides a charge.** Of the attempts of one call at most the
last can have been charged, and the call reports a failure as definitely unbilled
only if every attempt was. -/
theorem failover_never_hides_a_charge (env : Environment) (c : Client) (breaker : Breaker)
    (turns : ℕ → Turn) :
    (∀ i o, (doCall env c breaker turns).made[i]? = some o → Charged o →
      i + 1 = (doCall env c breaker turns).made.length) ∧
    (∀ failure, (doCall env c breaker turns).result = .error failure →
      failure.exposure = .definitelyUnbilled →
      ∀ o ∈ (doCall env c breaker turns).made,
        o.faultClass ≠ .ok ∧ o.exposure = .definitelyUnbilled) := by
  obtain ⟨earlier, reported⟩ := covered_doCall env c breaker turns
  constructor
  · intro i o held charged
    obtain ⟨inside, rfl⟩ := List.getElem?_eq_some_iff.mp held
    by_contra notLast
    have short : i < (doCall env c breaker turns).made.dropLast.length := by
      rw [List.length_dropLast]
      omega
    refine earlier _ (List.mem_iff_getElem.mpr ⟨i, short, ?_⟩) charged
    exact List.getElem_dropLast short
  · intro failure failed unbilled o member
    exact not_charged_iff.mp (reported failure failed unbilled o member)

end AnselmGateway.Failover
