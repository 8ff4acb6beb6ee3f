import AnselmGateway.Foundation.Base64
import AnselmGateway.NonceCache

/-! The device-bound request authentication of `internal/app/deviceproof`: a
signed proof is two base64 parts, a JSON payload and its signature, and is
admitted once through a replay guard. What the verifier takes from the standard
library is a parameter. -/
namespace AnselmGateway.DeviceProof
open Foundation NonceCache

def nonceTTL : ℤ := 5 * minute
def proofSkew : ℤ := 90 * second
def maxProofBytes : ℕ := 4096
def maxInstallID : ℕ := 128
def maxPublicKeyB64 : ℕ := 128

/-- `ed25519.PublicKeySize`. -/
def publicKeySize : ℕ := 32

/-- `sha256.Size`. -/
def sha256Size : ℕ := 32

/-- The request material a proof covers. -/
structure Request where
  method : Bytes
  target : Bytes
  body : Bytes
  deriving DecidableEq

/-- `payload`, by its JSON fields `v`, `kid`, `iat`, `jti`, `nonce`, `htm`,
`htu` and `bh`. -/
structure Payload where
  version : Int64
  keyID : Bytes
  issued : Int64
  id : Bytes
  nonce : Bytes
  method : Bytes
  target : Bytes
  body : Bytes
  deriving DecidableEq

/-- The standard library under the verifier: `sha256.Sum256`, HMAC-SHA256 under
a secret, `ed25519.Verify` and `json.Unmarshal` into a payload. -/
structure Primitives where
  sha256 : Bytes → Bytes
  hmac : Bytes → Bytes → Bytes
  verifySignature : Bytes → Bytes → Bytes → Bool
  unmarshal : Bytes → Option Payload

/-- The wire errors of the verifier. -/
inductive ProofError where
  | required
  | invalid
  | nonceInvalid
  | replayed
  | invalidInstall
  | internal
  deriving DecidableEq, Repr

variable (prim : Primitives) (secret : Bytes)

/-- The issue time a nonce carries, if it decodes to the full width. -/
def nonceIssued (encoded : Bytes) : Option ℤ :=
  match Base64.decode encoded with
  | none => none
  | some raw => if raw.length = 8 + 16 + sha256Size then some (unix (int64BigEndian (raw.take 8))) else none

/-- `validNonce`: authentic, not from the future beyond the skew, not expired. -/
def validNonce (encoded : Bytes) (now : ℤ) : Bool :=
  match Base64.decode encoded with
  | none => false
  | some raw =>
    if raw.length ≠ 8 + 16 + sha256Size then false
    else if raw.drop 24 ≠ prim.hmac secret (raw.take 24) then false
    else
      let issued := unix (int64BigEndian (raw.take 8))
      !decide (now + proofSkew < issued) && decide (now < issued + nonceTTL)

/-- `Thumbprint`. -/
def thumbprint (publicKey : Bytes) : Bytes := Base64.encode (prim.sha256 publicKey)

/-- The signed payload of a proof and the bytes its signature covers. -/
def readProof (key compact : Bytes) : Option Payload :=
  if compact.length > maxProofBytes then none
  else
    match splitAtByte 46 compact with
    | [payloadPart, signaturePart] =>
      if payloadPart = [] || signaturePart = [] then none
      else do
        let rawPayload ← Base64.decode payloadPart
        let p ← prim.unmarshal rawPayload
        let sig ← Base64.decode signaturePart
        if prim.verifySignature key payloadPart sig then some p else none
    | _ => none

/-- The field checks of `verify`. -/
def fieldsMatch (req : Request) (expectedID : Bytes) (p : Payload) (now : ℤ) : Bool :=
  let issued := unix p.issued.toInt
  p.version == 1 && p.keyID == expectedID && p.id != [] && decide (p.id.length ≤ 128) &&
    p.method == req.method && p.target == req.target &&
    p.body == Base64.encode (prim.sha256 req.body) &&
    !decide (issued < now - proofSkew) && !decide (now + proofSkew < issued)

/-- Everything `verify` checks before it consults the replay guard. -/
def authenticate (req : Request) (expectedID key compact : Bytes) (now : ℤ) :
    Except ProofError Payload :=
  match readProof prim key compact with
  | none => .error .invalid
  | some p =>
    if !fieldsMatch prim req expectedID p now then .error .invalid
    else if !validNonce prim secret p.nonce now then .error .nonceInvalid
    else .ok p

/-- `expectedID + ":" + p.ID`. -/
def replayKey (expectedID id : Bytes) : Bytes := expectedID ++ 58 :: id

/-- `verify` against its replay guard, both reading one clock. A missing guard
refuses every proof. -/
def verify (req : Request) (expectedID key compact : Bytes) (now : ℤ)
    (replay : Option (Cache Bytes)) : Except ProofError Payload × Option (Cache Bytes) :=
  match authenticate prim secret req expectedID key compact now with
  | .error failure => (.error failure, replay)
  | .ok p =>
    match replay with
    | none => (.error .replayed, none)
    | some guard =>
      let (fresh, guard) := guard.useOnce now (replayKey expectedID p.id)
      (if fresh then .ok p else .error .replayed, some guard)

/-- `VerifyRegistration`. -/
def verifyRegistration (req : Request) (encodedKey compact : Bytes) (now : ℤ)
    (replay : Option (Cache Bytes)) : Except ProofError (Bytes × Bytes) × Option (Cache Bytes) :=
  if encodedKey = [] || encodedKey.length > maxPublicKeyB64 then (.error .invalid, replay)
  else
    match Base64.decode encodedKey with
    | none => (.error .invalid, replay)
    | some key =>
      if key.length ≠ publicKeySize then (.error .invalid, replay)
      else
        let thumb := thumbprint prim key
        let (verdict, replay) := verify prim secret req thumb key compact now replay
        (verdict.map fun _ => (key, thumb), replay)

/-- `VerifyInstall`; `keys` is the resolver, `none` the nil interface, and its
answer an error, a missing install or the registered key. -/
def verifyInstall (keys : Option (Bytes → Except Unit (Option Bytes))) (req : Request)
    (installID compact : Bytes) (now : ℤ) (replay : Option (Cache Bytes)) :
    Except ProofError Unit × Option (Cache Bytes) :=
  if installID = [] || compact = [] then (.error .required, replay)
  else if installID.length > maxInstallID then (.error .invalidInstall, replay)
  else
    match keys with
    | none => (.error .internal, replay)
    | some publicKey =>
      match publicKey installID with
      | .error _ => (.error .internal, replay)
      | .ok none => (.error .invalidInstall, replay)
      | .ok (some key) =>
        if key.length ≠ publicKeySize then (.error .invalidInstall, replay)
        else
          let (verdict, replay) := verify prim secret req installID key compact now replay
          (verdict.map fun _ => (), replay)

/-- The replay guard `bootstrap` injects: fail-closed, two minutes. -/
def productionGuard : Cache Bytes := newFailClosed (2 * minute) defaultMax

end AnselmGateway.DeviceProof
