import AnselmGateway.APIError
import AnselmGateway.DeviceProofReplay
import AnselmGateway.Foundation.Utf8
import AnselmGateway.Install
import AnselmGateway.ProofOfWork
import AnselmGateway.RuntimeConfig

/-! The two doors of the business API, `internal/transport/httpapi/handlers/business`:
`Protect` in front of every handler that serves an install, and the registration of an
install, behind its proof of work. The devices that sign and the challenges they are given
are part of the machine. -/
namespace AnselmGateway.ProtectedDoor
open Foundation InstallStore DeviceProof DeviceProofReplay NonceCache

/-! ## Requests -/

/-- Why a body cannot be read to its end. -/
inductive BodyError where
  | tooLarge
  | broken
  deriving DecidableEq

/-- A request as the mux hands it on: its line, the headers the doors read, the hashed
address it came from, and what reading its body to the end yields. -/
structure HTTPRequest where
  method : String
  host : String
  escapedPath : String
  rawQuery : String
  installID : String
  proof : Bytes
  publicKey : Bytes
  pow : Bytes
  ipKey : String
  body : Except BodyError Bytes

/-- `target`. -/
def HTTPRequest.target (beyond : Char → Char) (r : HTTPRequest) : String :=
  toLower beyond r.host ++ r.escapedPath ++ if r.rawQuery = "" then "" else "?" ++ r.rawQuery

/-- What a proof of a request with this body covers. -/
def HTTPRequest.signable (beyond : Char → Char) (r : HTTPRequest) (body : Bytes) : Request :=
  ⟨utf8 r.method, utf8 (r.target beyond), body⟩

def deviceProofRequired : APIError := ⟨401, "DEVICE_PROOF_REQUIRED", "device proof is required"⟩

/-- The wire errors of the verifier. -/
def proofError : ProofError → APIError
  | .required => deviceProofRequired
  | .invalid => ⟨401, "DEVICE_PROOF_INVALID", "device proof is invalid"⟩
  | .nonceInvalid => ⟨401, "DEVICE_PROOF_NONCE_INVALID",
      "device proof challenge expired; fetch a fresh challenge"⟩
  | .replayed => ⟨409, "DEVICE_PROOF_REPLAYED", "device proof was already used"⟩
  | .invalidInstall => .invalidInstall
  | .internal => .internal

variable (beyond : Char → Char) (prim : Primitives) (secret : Bytes)

/-! ## The protected door -/

/-- `PublicKey`, for an id as it came. -/
def storedKey (installs : Installs) (id : Bytes) : Option Bytes :=
  (installs.table.rows.find? fun row => utf8 row.1 = id).map fun row => row.2.publicKey

/-- The key resolver over the stored rows. -/
def keyResolver (fails : Bool) (installs : Installs) (id : Bytes) : Except Unit (Option Bytes) :=
  if fails then .error () else .ok (storedKey installs id)

/-- `Protect`: the body the handler behind it reads, or what it is refused with. -/
def protect (fails : Bool) (installs : Installs) (r : HTTPRequest) (now : ℤ)
    (replay : Option (Cache Bytes)) : Except APIError Bytes × Option (Cache Bytes) :=
  if r.installID = "" || r.proof = [] then (.error deviceProofRequired, replay)
  else
    match r.body with
    | .error .tooLarge => (.error .requestBodyTooLarge, replay)
    | .error .broken => (.error .badRequest, replay)
    | .ok body =>
      match verifyInstall prim secret (some (keyResolver fails installs)) (r.signable beyond body)
          (utf8 r.installID) r.proof now replay with
      | (.error err, replay) => (.error (proofError err), replay)
      | (.ok (), replay) => (.ok body, replay)

/-! ## The registration door -/

/-- `PowOutcome` labels. -/
inductive PowResult where
  | missing
  | verified
  | failed
  | shadowMissing
  | shadowInvalid
  deriving DecidableEq

def installPowRequired : APIError :=
  ⟨403, "INSTALL_POW_REQUIRED",
    "proof-of-work is required: solve GET /v1/install/challenge and resubmit with X-PoW"⟩

def installPowInvalid : APIError :=
  ⟨403, "INSTALL_POW_INVALID",
    "invalid proof-of-work: fetch a fresh challenge from GET /v1/install/challenge and retry"⟩

/-- `ParseHeader`. -/
def parseHeader (header : Bytes) : Option (Bytes × Bytes) :=
  let h := trimSpaceBytes header
  match h.idxOf? 46 with
  | none => none
  | some i => if i = 0 ∨ i + 1 = h.length then none else some (h.take i, h.drop (i + 1))

/-- The settings of the gate. -/
structure PowConfig where
  mode : String
  secret : Bytes
  difficulty : ℤ

/-- `verifyPoW`. -/
def verifyPoW (pow : ProofOfWork.Primitives) (cfg : PowConfig) (header : Bytes) (now : ℤ)
    (nonces : Cache Bytes) : Bool × Cache Bytes :=
  match parseHeader header with
  | none => (false, nonces)
  | some (challenge, nonce) =>
    match ProofOfWork.verify pow cfg.secret challenge nonce cfg.difficulty now nonces with
    | (.ok (), nonces) => (true, nonces)
    | (.error _, nonces) => (false, nonces)

/-- `PoWGate`: a refusal if any, the outcome it counts, and the challenges it has spent. -/
def powGate (pow : ProofOfWork.Primitives) (cfg : PowConfig) (header : Bytes) (now : ℤ)
    (nonces : Cache Bytes) : Option APIError × Option PowResult × Cache Bytes :=
  if cfg.mode ≠ RuntimeConfig.powModeShadow ∧ cfg.mode ≠ RuntimeConfig.powModeEnforce then
    (none, none, nonces)
  else
    let hdr := trimSpaceBytes header
    if hdr = [] then
      if cfg.mode = RuntimeConfig.powModeEnforce then (some installPowRequired, some .missing, nonces)
      else (none, some .shadowMissing, nonces)
    else
      match verifyPoW pow cfg hdr now nonces with
      | (true, nonces) => (none, some .verified, nonces)
      | (false, nonces) =>
        if cfg.mode = RuntimeConfig.powModeEnforce then (some installPowInvalid, some .failed, nonces)
        else (none, some .shadowInvalid, nonces)

/-- `installBodyLimit`. -/
def installBodyLimit : ℕ := 8 * 1024

/-- The body of a registration, read whole and decoded; both ways to fail look alike. -/
def readRegistration (decode : Bytes → Option Install.Request) (r : HTTPRequest) :
    Except APIError (Bytes × Install.Request) :=
  match r.body with
  | .error _ => .error .badRequest
  | .ok raw =>
    if raw.length > installBodyLimit then .error .badRequest
    else match decode raw with
      | none => .error .badRequest
      | some req => .ok (raw, req)

/-- `Registration`. -/
def registration (r : HTTPRequest) (raw : Bytes) (now : ℤ) (replay : Option (Cache Bytes)) :
    Except APIError (Bytes × Bytes) × Option (Cache Bytes) :=
  match verifyRegistration prim secret (r.signable beyond raw) r.publicKey r.proof now replay with
  | (.error err, replay) => (.error (proofError err), replay)
  | (.ok reg, replay) => (.ok reg, replay)

end AnselmGateway.ProtectedDoor
