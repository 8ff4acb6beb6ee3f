import AnselmGateway.Foundation.Base64
import AnselmGateway.NonceCache
import Mathlib.Algebra.Group.Int.Defs
import Mathlib.Algebra.Group.Nat.Defs

/-! The stateless proof-of-work challenge of `internal/pkg/pow`: random bytes,
a timestamp and a truncated tag over both, solved by a nonce and consumed once.
What the package takes from the standard library is a parameter. -/
namespace AnselmGateway.ProofOfWork
open Foundation NonceCache

/-- `ChallengeTTL`. -/
def challengeTTL : ℤ := 120 * second

def randLen : ℕ := 16
def tsLen : ℕ := 8
def macLen : ℕ := 16
def rawLen : ℕ := randLen + tsLen + macLen

def minDifficulty : ℤ := 1
def maxDifficulty : ℤ := 32

/-- The standard library under the package: `sha256.Sum256`, and HMAC-SHA256
under a secret with its full-width tag. -/
structure Primitives where
  sha256 : Bytes → Bytes
  mac : Bytes → Bytes → Bytes
  mac_length : ∀ secret message, (mac secret message).length = 32

/-- The sentinel errors, and the failed read of Mint's random source. -/
inductive PowError where
  | badDifficulty
  | malformed
  | forged
  | expired
  | insufficient
  | replayed
  | random
  deriving DecidableEq, Repr

/-- `putUnix`: eight big-endian bytes, as `int64` wraps. -/
def putUnix (sec : ℤ) : Bytes :=
  let word := (sec % 2 ^ 64).toNat
  [UInt8.ofNat (word / 2 ^ 56), UInt8.ofNat (word / 2 ^ 48), UInt8.ofNat (word / 2 ^ 40),
    UInt8.ofNat (word / 2 ^ 32), UInt8.ofNat (word / 2 ^ 24), UInt8.ofNat (word / 2 ^ 16),
    UInt8.ofNat (word / 2 ^ 8), UInt8.ofNat word]

/-- `readUnix`. -/
def readUnix (src : Bytes) : ℤ := int64BigEndian src

/-- The inner loop of `leadingZeroBits`, over the masks below `1 <<< bits`. -/
def zeroBitsBelow (byte : UInt8) : ℕ → ℕ
  | 0 => 0
  | bit + 1 => if byte &&& UInt8.ofNat (2 ^ bit) ≠ 0 then 0 else zeroBitsBelow byte bit + 1

/-- `leadingZeroBits`. -/
def leadingZeroBits : Bytes → ℕ
  | [] => 0
  | byte :: rest => if byte = 0 then leadingZeroBits rest + 8 else zeroBitsBelow byte 8

variable (prim : Primitives) (secret : Bytes)

/-- `meetsDifficulty`, over the challenge text as presented. -/
def meetsDifficulty (challenge nonce : Bytes) (difficulty : ℤ) : Bool :=
  decide (difficulty ≤ leadingZeroBits (prim.sha256 (challenge ++ 46 :: nonce)))

/-- The bytes a tag covers. -/
def signed (raw : Bytes) : Bytes := raw.take (randLen + tsLen)

/-- When a challenge says it was issued. -/
def issuedAt (raw : Bytes) : ℤ := unix (readUnix ((signed raw).drop randLen))

/-- `Mint`; `random` is what the random source read, `none` its failure. -/
def mint (difficulty : ℤ) (random : Option (Vector UInt8 16)) (now : ℤ) : Except PowError Bytes :=
  if difficulty < minDifficulty ∨ difficulty > maxDifficulty then .error .badDifficulty
  else
    match random with
    | none => .error .random
    | some random16 =>
      let buf := random16.toList ++ putUnix (now / second)
      .ok (Base64.encode (buf ++ (prim.mac secret buf).take macLen))

/-- Everything `Verify` checks before it consults the replay set. -/
def checkSolution (challenge nonce : Bytes) (difficulty now : ℤ) : Except PowError Unit :=
  if difficulty < minDifficulty ∨ difficulty > maxDifficulty then .error .badDifficulty
  else
    match Base64.decode challenge with
    | none => .error .malformed
    | some raw =>
      if raw.length ≠ rawLen then .error .malformed
      else if raw.drop (randLen + tsLen) ≠ (prim.mac secret (signed raw)).take macLen then
        .error .forged
      else if now - issuedAt raw > challengeTTL ∨ issuedAt raw - now > challengeTTL then
        .error .expired
      else if !meetsDifficulty prim challenge nonce difficulty then .error .insufficient
      else .ok ()

/-- `Verify`: the single-use mark comes last, and is of the challenge text. -/
def verify (challenge nonce : Bytes) (difficulty now : ℤ) (nonces : Cache Bytes) :
    Except PowError Unit × Cache Bytes :=
  match checkSolution prim secret challenge nonce difficulty now with
  | .error failure => (.error failure, nonces)
  | .ok () =>
    let (fresh, nonces) := nonces.useOnce now challenge
    (if fresh then .ok () else .error .replayed, nonces)

/-- The replay set `bootstrap` injects: evicting, ten minutes. -/
def productionNonces : Cache Bytes := new (10 * minute)

end AnselmGateway.ProofOfWork
