import AnselmGateway.Foundation.Fallible
import AnselmGateway.RuntimeConfig

/-! What the cross-field checks ask of a configuration, check by check. -/
namespace AnselmGateway.ConfigSemantics
open Foundation Billing RuntimeConfig
variable {ε : Type}

theorem refuseIf_passes {refused : Bool} {message : String} {done : Unit} :
    refuseIf refused message = .ok done ↔ refused = false := by
  cases refused <;> simp [refuseIf]

theorem checks_pass {p : Prop} [Decidable p] {checks rest : Except ε Unit} :
    (if p then (checks >>= fun _ => rest) else rest) = .ok () ↔
      (p → checks = .ok ()) ∧ rest = .ok () := by
  by_cases holds : p
  · rw [if_pos holds, Fallible.bind_ok]
    exact ⟨fun ⟨_, checked, ran⟩ => ⟨fun _ => checked, ran⟩, fun ⟨checked, ran⟩ => ⟨(), checked holds, ran⟩⟩
  · rw [if_neg holds]
    exact ⟨fun ran => ⟨fun met => absurd met holds, ran⟩, fun ran => ran.2⟩

theorem last_passes {p : Prop} [Decidable p] {checks : Except ε Unit} :
    (if p then checks else pure ()) = .ok () ↔ (p → checks = .ok ()) := by
  by_cases holds : p
  · rw [if_pos holds]
    exact ⟨fun ran _ => ran, fun ran => ran holds⟩
  · rw [if_neg holds]
    exact ⟨fun _ met => absurd met holds, fun _ => rfl⟩

/-- Some plan for the model fits the month's spend. -/
def Affordable (c : Config) : Prop :=
  ∃ plan, requireCard "SEC-2 config: MULTIMODAL_UPSTREAM_MODEL has no exact rate card"
      (newPlan providerQwen c.multimodalUpstreamModel .standard qwen37InputLimit qwen37OutputLimit) = .ok plan ∧
    plan.reservedPUSD.toInt ≤ c.globalMonthlySpendPUSD

/-- The checks of `ValidateSemantics`. -/
structure Meaningful (c : Config) : Prop where
  spend : 0 < c.globalMonthlySpendPUSD
  publicModelID : validPublicModelID c.publicModelID = true
  affordable : Affordable c
  mediaParts : 1 ≤ c.maxMediaParts ∧ c.maxMediaParts ≤ RuntimeConfig.maxMediaParts
  mediaBytes : 1 ≤ c.maxMediaDecodedBytes ∧ c.maxMediaDecodedBytes ≤ c.maxBodyBytes
  image : c.imageEnabled = true → c.validateImage = .ok ()
  speech : c.speechEnabled = true → c.validateSpeech = .ok ()
  domain : (!blank c.mediaFetchDomain) = true → validateMediaDomain (trimSpace c.mediaFetchDomain) = .ok ()
  video : c.videoEnabled = true → c.validateVideo = .ok ()
  media : c.mediaEnabled = true → c.validateMedia = .ok ()
  powSecret : validatePowSecretPresent c.installPowMode c.installPowSecret = .ok ()
  runtimeMode : c.runtimeMode ≠ "" → validateRuntimeMode c.runtimeMode = .ok ()

theorem validateSemantics_ok {c : Config} : c.validateSemantics = .ok () ↔ Meaningful c := by
  unfold Config.validateSemantics
  simp only [Fallible.bind_ok, refuseIf_passes, exists_const, checks_pass, last_passes, decide_eq_false_iff_not,
    Bool.not_eq_false', Bool.or_eq_false_iff, not_le, not_lt, gt_iff_lt]
  constructor
  · rintro ⟨spend, publicModelID, plan, card, quote, parts, bytes, image, speech, domain, video, media,
      _, powSecret, runtimeMode⟩
    exact ⟨spend, publicModelID, ⟨plan, card, quote⟩, parts, bytes, image, speech, domain, video, media,
      powSecret, runtimeMode⟩
  · rintro ⟨spend, publicModelID, ⟨plan, card, quote⟩, parts, bytes, image, speech, domain, video, media,
      powSecret, runtimeMode⟩
    exact ⟨spend, publicModelID, plan, card, quote, parts, bytes, image, speech, domain, video, media,
      (), powSecret, runtimeMode⟩

theorem validateMedia_ok {c : Config} : c.validateMedia = .ok () ↔ blank c.mediaStagingRoot = false ∧
    32 ≤ c.mediaSigningSecret.length ∧
    (0 < c.mediaUploadMaxBytes ∧ c.mediaUploadMaxBytes ≤ maxMediaUploadBytes) ∧
    ((0 < c.mediaChunkMaxBytes ∧ c.mediaChunkMaxBytes ≤ c.maxBodyBytes) ∧
      c.mediaChunkMaxBytes ≤ c.mediaUploadMaxBytes) ∧
    0 < c.mediaUploadTTL ∧ 0 < c.mediaLeaseTTL := by
  unfold Config.validateMedia
  simp only [Fallible.bind_ok, refuseIf_passes, exists_const, decide_eq_false_iff_not, Bool.or_eq_false_iff,
    not_le, not_lt, gt_iff_lt]

/-- A body limit that changes is held against the media limit, and where media is enabled
against the chunk size. -/
theorem meaningful_maxBodyBytes {c : Config} (meaningful : Meaningful c) (n : ℤ) :
    Meaningful { c with maxBodyBytes := n } ↔
      c.maxMediaDecodedBytes ≤ n ∧ (c.mediaEnabled = true → c.mediaChunkMaxBytes ≤ n) := by
  constructor
  · intro changed
    refine ⟨changed.mediaBytes.2, fun enabled => ?_⟩
    obtain ⟨_, _, _, ⟨⟨_, within⟩, _⟩, _⟩ := validateMedia_ok.mp (changed.media enabled)
    exact within
  · rintro ⟨decoded, chunk⟩
    refine { meaningful with mediaBytes := ⟨meaningful.mediaBytes.1, decoded⟩, media := fun enabled => ?_ }
    obtain ⟨root, secret, upload, ⟨⟨some_, _⟩, fits⟩, lived⟩ := validateMedia_ok.mp (meaningful.media enabled)
    exact validateMedia_ok.mpr ⟨root, secret, upload, ⟨⟨some_, chunk enabled⟩, fits⟩, lived⟩

end AnselmGateway.ConfigSemantics
