import Mathlib.Data.List.Basic

/-! The structured errors of `internal/domain/apierr`: an HTTP status, a stable
wire code and a client-safe message. -/
namespace AnselmGateway

/-- `APIError` without details. -/
structure APIError where
  status : ℕ
  code : String
  message : String
  deriving DecidableEq, Repr

namespace APIError

def installRateLimited : APIError :=
  ⟨429, "INSTALL_RATE_LIMITED", "too many installs from this address, retry later"⟩

def installCapReached : APIError :=
  ⟨429, "INSTALL_CAP_REACHED", "install issuance is temporarily at capacity, retry later"⟩

def installFPLimited : APIError :=
  ⟨429, "INSTALL_FP_LIMITED", "too many installs for this client, retry later"⟩

/-- `Internal`. -/
def internal : APIError := ⟨500, "INTERNAL", "internal error"⟩

def upstreamBusy : APIError :=
  ⟨429, "UPSTREAM_BUSY", "upstream capacity is busy, retry shortly"⟩

def upstreamError : APIError := ⟨502, "UPSTREAM_ERROR", "upstream model provider error"⟩

def upstreamTimeout : APIError := ⟨504, "UPSTREAM_TIMEOUT", "upstream model provider timeout"⟩

def clientCanceled : APIError := ⟨499, "CLIENT_CANCELED", "client canceled the request"⟩

/-- `UpstreamRejected`, whose reason is kept beside it. -/
def upstreamRejected : APIError :=
  ⟨400, "UPSTREAM_REJECTED",
    "upstream rejected the request: reduce input size or max_tokens, or fix request parameters"⟩

def rateLimited : APIError := ⟨429, "RATE_LIMITED", "rate or daily sub-limit exceeded"⟩

def quotaExhausted : APIError := ⟨429, "QUOTA_EXHAUSTED", "monthly free-tier quota exhausted"⟩

def budgetExhausted : APIError :=
  ⟨402, "BUDGET_EXHAUSTED", "daily service budget reached, try again tomorrow"⟩

def imageQuotaExhausted : APIError :=
  ⟨429, "IMAGE_QUOTA_EXHAUSTED", "daily image generation quota reached, try again tomorrow"⟩

def ttsQuotaExhausted : APIError :=
  ⟨429, "TTS_QUOTA_EXHAUSTED", "daily speech synthesis quota reached, try again tomorrow"⟩

def videoQuotaExhausted : APIError :=
  ⟨429, "VIDEO_QUOTA_EXHAUSTED", "daily video generation quota reached, try again tomorrow"⟩

def voiceQuotaExhausted : APIError :=
  ⟨429, "VOICE_QUOTA_EXHAUSTED", "daily voice enrollment quota reached, try again tomorrow"⟩

def invalidInstall : APIError := ⟨401, "INVALID_INSTALL", "missing or invalid install id"⟩

def accountBanned : APIError := ⟨403, "ACCOUNT_BANNED", "this install has been disabled"⟩

def badRequest : APIError := ⟨400, "BAD_REQUEST", "invalid request body"⟩

def voiceUnavailable : APIError :=
  ⟨503, "VOICE_UNAVAILABLE", "voice cloning is not available on this deployment"⟩

def voiceSampleInvalid : APIError :=
  ⟨400, "VOICE_SAMPLE_INVALID", "the voice sample must be a base64 data URL, not an address"⟩

def voiceInventoryFull : APIError :=
  ⟨409, "VOICE_INVENTORY_FULL", "voice inventory is full — delete a voice to make room"⟩

def voiceNameTaken : APIError :=
  ⟨409, "VOICE_NAME_TAKEN", "a voice with this name already exists — delete it first"⟩

def voiceCapacityReached : APIError :=
  ⟨503, "VOICE_CAPACITY_REACHED", "the service cannot register new voices right now"⟩

def voiceNotFound : APIError := ⟨404, "VOICE_NOT_FOUND", "voice not found"⟩

def requestBodyTooLarge : APIError :=
  ⟨413, "REQUEST_BODY_TOO_LARGE", "request body exceeds the configured size limit"⟩

def multimodalUnavailable : APIError :=
  ⟨503, "MULTIMODAL_UNAVAILABLE", "multimodal input is unavailable on this deployment"⟩

def audioUnavailable : APIError :=
  ⟨503, "AUDIO_UNAVAILABLE", "audio input is not available on this deployment"⟩

def imageUnavailable : APIError :=
  ⟨503, "IMAGE_UNAVAILABLE", "image generation is not available on this deployment"⟩

def imageSourceInvalid : APIError :=
  ⟨400, "IMAGE_SOURCE_INVALID", "the edit source must be a base64 data URL, not an address"⟩

def ttsUnavailable : APIError :=
  ⟨503, "TTS_UNAVAILABLE", "speech synthesis is not available on this deployment"⟩

def videoUnavailable : APIError :=
  ⟨503, "VIDEO_UNAVAILABLE", "video generation is not available on this deployment"⟩

def videoFrameInvalid : APIError :=
  ⟨400, "VIDEO_FRAME_INVALID", "the first frame must be a base64 data URL, not an address"⟩

def videoTaskNotFound : APIError := ⟨404, "VIDEO_TASK_NOT_FOUND", "video task was not found"⟩

def mediaUnavailable : APIError :=
  ⟨503, "MEDIA_UNAVAILABLE", "durable media upload is not enabled on this deployment"⟩

def mediaLeaseNotFound : APIError := ⟨404, "MEDIA_LEASE_NOT_FOUND", "media lease was not found"⟩

def mediaUploadInvalid : APIError := ⟨400, "MEDIA_UPLOAD_INVALID", "invalid media upload request"⟩

def mediaUploadNotFound : APIError := ⟨404, "MEDIA_UPLOAD_NOT_FOUND", "media upload was not found"⟩

def mediaUploadConflict : APIError :=
  ⟨409, "MEDIA_UPLOAD_CONFLICT", "media upload is not writable in its current state"⟩

def mediaIntegrityFailed : APIError :=
  ⟨422, "MEDIA_INTEGRITY_FAILED", "media upload failed integrity verification"⟩

def diskLow : APIError := ⟨503, "DISK_LOW", "service temporarily read-only: low disk space"⟩

end APIError
end AnselmGateway
