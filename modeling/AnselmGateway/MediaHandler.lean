import AnselmGateway.APIError
import AnselmGateway.InstallStore
import AnselmGateway.LeaseSigner
import AnselmGateway.Media

/-! The HTTP boundary of durable media, `handlers/business/media`: which call of the use case a
request becomes, and what its caller is told instead. -/
namespace AnselmGateway.MediaHandler
open Foundation MediaStore Media

/-- `Handler`. It has no service where `MEDIA_ENABLED` is off. -/
structure Handler where
  serves : Bool
  chunkMaxBytes : ℤ

/-- `createRequest`. -/
structure CreateRequest where
  sha256 : String
  mimeType : String
  totalBytes : ℤ

/-- The requests, behind the device proof and, for the last one, beside it. A body that cannot be
read, or decoded, is `none`. -/
inductive Request where
  | create (body : Option CreateRequest)
  | append (uploadID offset : String) (body : Option Bytes)
  | complete (uploadID : String) (body : Option Bytes)
  | cancel (uploadID : String)
  | fetch (leaseID token : String)

/-- `uploadResponse`. -/
structure UploadResponse where
  uploadID : String
  offset : ℕ
  expiresAt : ℤ
  chunkMaxBytes : ℤ
  deriving DecidableEq

/-- `authorize`, over what `LookupInstall` finds, `none` where it fails. -/
def authorize (installID : String) (lookup : Option (Option (String × InstallStore.Status))) :
    Except APIError String :=
  if installID = "" then .error .invalidInstall
  else match lookup with
    | none => .error .internal
    | some none => .error .invalidInstall
    | some (some (got, status)) => if status = .banned then .error .accountBanned else .ok got

/-- `parseOffset`. On 64 bits `ParseInt` in base 10 is `Atoi`. -/
def parseOffset (raw : String) : Option ℤ :=
  if blank raw then none else (Upstream.atoi raw).filter fun n => 0 ≤ n

/-- `writeAppError`. -/
def writeAppError : MediaError → APIError
  | .invalidInput => .mediaUploadInvalid
  | .notFound => .mediaUploadNotFound
  | .conflict => .mediaUploadConflict
  | .integrity => .mediaIntegrityFailed
  | .failed => .internal

section Handlers
variable (h : Handler) (authorized : Except APIError String)

/-- The checks before every handler but `Fetch`. -/
def Handler.admit : Except APIError String :=
  match authorized with
  | .error denied => .error denied
  | .ok installID => if h.serves then .ok installID else .error .mediaUnavailable

/-- `Create`, `Append`, `Complete`, `Cancel` and `Fetch` up to the use case. A new upload has the
id that is drawn for it. -/
def Handler.call (drawn : String) : Request → Except APIError Call
  | .create body =>
    match h.admit authorized, body with
    | .error denied, _ => .error denied
    | .ok _, none => .error .mediaUploadInvalid
    | .ok installID, some decoded =>
      .ok (.create drawn installID decoded.sha256 decoded.mimeType decoded.totalBytes)
  | .append uploadID offset body =>
    match h.admit authorized with
    | .error denied => .error denied
    | .ok installID =>
      match parseOffset offset, body with
      | none, _ => .error .mediaUploadInvalid
      | some _, none => .error .mediaUploadInvalid
      | some offset, some chunk =>
        if chunk.length > h.chunkMaxBytes then .error .mediaUploadInvalid
        else .ok (.append installID uploadID offset chunk)
  | .complete uploadID body =>
    match h.admit authorized with
    | .error denied => .error denied
    | .ok installID =>
      if body = some [] then .ok (.complete installID uploadID) else .error .mediaUploadInvalid
  | .cancel uploadID =>
    match h.admit authorized with
    | .error denied => .error denied
    | .ok installID => .ok (.cancel installID uploadID)
  | .fetch leaseID token =>
    if h.serves then .ok (.openLease none leaseID token) else .error .mediaLeaseNotFound

/-- `Service.Status`, which is `openOwned`. -/
def status (turn : Turn) (installID uploadID : String) (world : World) : Except MediaError Upload :=
  if blank installID || blank uploadID then .error .invalidInput
  else
    match query turn (getUploadForInstall installID uploadID) world with
    | none => .error .failed
    | some row => openOwned turn.now row

/-- `Status`. -/
def Handler.status (turn : Turn) (uploadID : String) (world : World) : Except APIError UploadResponse :=
  match h.admit authorized with
  | .error denied => .error denied
  | .ok installID =>
    match MediaHandler.status turn installID uploadID world with
    | .error failure => .error (writeAppError failure)
    | .ok u => .ok ⟨uploadID, u.receivedBytes, u.expiresAt, h.chunkMaxBytes⟩

end Handlers

/-! ## Offsets -/

/-- A text of spaces is no number. -/
theorem atoi_blank {raw : String} (spaces : blank raw = true) : Upstream.atoi raw = none := by
  unfold blank at spaces
  unfold Upstream.atoi
  split
  rename_i sign digits read
  split at read
  · rename_i rest same
    rw [same, List.all_cons, Bool.and_eq_true] at spaces
    exact absurd spaces.1 (by decide)
  · rename_i rest same
    rw [same, List.all_cons, Bool.and_eq_true] at spaces
    exact absurd spaces.1 (by decide)
  · cases read
    refine if_pos ?_
    cases same : raw.toList with
    | nil => exact .inl rfl
    | cons first rest =>
      rw [same, List.all_cons, Bool.and_eq_true] at spaces
      refine .inr fun all => ?_
      rw [List.all_cons, Bool.and_eq_true, Char.isDigit_iff_toNat] at all
      obtain ⟨⟨low, high⟩, _⟩ := all
      change 48 ≤ first.toNat at low
      change first.toNat ≤ 57 at high
      have space := spaces.1
      simp only [isSpace, Bool.or_eq_true, Bool.and_eq_true, decide_eq_true_eq, beq_iff_eq] at space
      omega

/-- An offset that was given out is read back. -/
theorem parseOffset_toString {n : ℕ} (small : n < 2 ^ 63) : parseOffset (toString (n : ℤ)) = some (n : ℤ) := by
  have exact_ : (Int64.ofInt n).toInt = n := Int64.toInt_ofInt_of_le (by omega) (by omega)
  have text : LeaseSigner.formatInt (Int64.ofInt n) = toString (n : ℤ) := by
    rw [LeaseSigner.formatInt, exact_]
  have reads : Upstream.atoi (toString (n : ℤ)) = some (n : ℤ) := by
    rw [← text, LeaseSigner.atoi_formatInt, exact_]
  have number : ¬blank (toString (n : ℤ)) = true := by
    intro spaces
    rw [atoi_blank spaces] at reads
    cases reads
  rw [parseOffset, if_neg number, reads]
  exact Option.filter_some_pos (decide_eq_true (Int.natCast_nonneg n))

end AnselmGateway.MediaHandler
