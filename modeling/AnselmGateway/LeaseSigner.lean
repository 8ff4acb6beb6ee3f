import AnselmGateway.Foundation.Hex
import AnselmGateway.Upstream

/-! The fetch signer of `internal/app/media`: a token is the second a lease expires at and a
keyed digest of the lease, its owner and that second. The digest is a parameter. -/
namespace AnselmGateway.LeaseSigner
open Foundation

/-- HMAC-SHA256, of a key and a message. -/
abbrev Hmac := Bytes → Bytes → Bytes

/-- `HMACSigner`: `NewHMACSigner` refuses a secret under 32 bytes. -/
structure HMACSigner where
  secret : Bytes
  long : 32 ≤ secret.length

/-- `hex.EncodeToString`. -/
def hexString (bytes : Bytes) : String := String.ofList ((Hex.encode bytes).map fun digit => Char.ofNat digit.toNat)

/-- `Time.Unix`. -/
def unixSeconds (instant : ℤ) : Int64 := Int64.ofInt (instant / second)

/-- `strconv.FormatInt` in base 10. -/
def formatInt (value : Int64) : String := toString value.toInt

/-- `fetchTokenPayload`. -/
def fetchTokenPayload (leaseID installID : String) (expires : Int64) : String :=
  "anselm-media-fetch-v1\x00" ++ leaseID ++ "\x00" ++ installID ++ "\x00" ++ formatInt expires

variable (hmac : Hmac) (s : HMACSigner)

/-- `Token`. -/
def token (leaseID installID : String) (expiresAt : ℤ) : String :=
  let expires := unixSeconds expiresAt
  formatInt expires ++ "." ++ hexString (hmac s.secret (utf8 (fetchTokenPayload leaseID installID expires)))

/-- `Verify`. On 64 bits `ParseInt` in base 10 is `Atoi`. -/
def verify (presented leaseID installID : String) (expiresAt : ℤ) : Bool :=
  match presented.toList.splitOn '.' with
  | [first, _] =>
    match Upstream.atoi (String.ofList first) with
    | none => false
    | some expires =>
      if expires ≠ (unixSeconds expiresAt).toInt then false
      else decide (presented = token hmac s leaseID installID expiresAt)
  | _ => false

/-! ## Numbers as texts -/

theorem toList_formatInt (value : Int64) : (formatInt value).toList =
    if 0 ≤ value.toInt then Nat.toDigits 10 value.toInt.toNat
    else '-' :: Nat.toDigits 10 (-value.toInt).toNat := by
  rw [formatInt, Int.toString_eq_repr, Int.repr_eq_if]
  split
  · exact Nat.toList_repr
  · rw [String.toList_append, Nat.toList_repr]
    rfl

/-- The value a run of digits is read as. -/
theorem foldl_digits (n : ℕ) :
    (Nat.toDigits 10 n).foldl (fun value digit => value * 10 + (digit.toNat - 48)) 0 = n := by
  have read := @Nat.ofDigitChars_ten_toDigits n
  rw [Nat.ofDigitChars_eq_foldl] at read
  rw [← read]
  congr 1
  · funext value digit
    rw [Nat.mul_comm]
    rfl
  · rw [read]

theorem isDigit_toDigits {n : ℕ} {digit : Char} (member : digit ∈ Nat.toDigits 10 n) : digit.isDigit = true :=
  Nat.isDigit_of_mem_toDigits (by omega) (by omega) member

/-- What is written is read back. -/
theorem atoi_formatInt (value : Int64) : Upstream.atoi (formatInt value) = some value.toInt := by
  have low := value.le_toInt
  have high := value.toInt_lt
  unfold Upstream.atoi
  rw [toList_formatInt]
  split
  rename_i sign rest read
  have digits : rest = Nat.toDigits 10 value.toInt.natAbs ∧ sign * (value.toInt.natAbs : ℤ) = value.toInt := by
    by_cases nonneg : 0 ≤ value.toInt
    · rw [if_pos nonneg, show value.toInt.toNat = value.toInt.natAbs by omega] at read
      have digits := @isDigit_toDigits value.toInt.natAbs
      -- No digit is taken for a sign.
      split at read
      · rename_i same
        rw [same] at digits
        exact absurd (digits List.mem_cons_self) (by decide)
      · rename_i same
        rw [same] at digits
        exact absurd (digits List.mem_cons_self) (by decide)
      · cases read
        exact ⟨rfl, by omega⟩
    · rw [if_neg nonneg, show (-value.toInt).toNat = value.toInt.natAbs by omega] at read
      cases read
      exact ⟨rfl, by omega⟩
  obtain ⟨rfl, signed⟩ := digits
  have all : (Nat.toDigits 10 value.toInt.natAbs).all Char.isDigit = true :=
    List.all_eq_true.mpr fun digit => isDigit_toDigits
  rw [if_neg (by simp [all]), foldl_digits]
  dsimp only
  rw [signed, if_pos ⟨low, high⟩]

/-! ## Tokens -/

theorem dot_not_mem_formatInt (value : Int64) : '.' ∉ (formatInt value).toList := by
  rw [toList_formatInt]
  split
  · intro member
    exact absurd (isDigit_toDigits member) (by decide)
  · intro member
    rcases List.mem_cons.mp member with same | digit
    · cases same
    · exact absurd (isDigit_toDigits digit) (by decide)

theorem dot_not_mem_hexString (bytes : Bytes) : '.' ∉ (hexString bytes).toList := by
  rw [hexString, String.toList_ofList]
  intro member
  obtain ⟨digit, written, same⟩ := List.mem_map.mp member
  have range := Hex.mem_encode written
  have code := congrArg Char.toNat same
  have valid : digit.toNat.isValidChar := .inl (by omega)
  rw [Char.ofNat, dif_pos valid] at code
  change digit.toNat = 46 at code
  omega

variable {hmac} {s}

/-- The signer accepts one token for a lease. -/
theorem verify_iff {presented leaseID installID : String} {expiresAt : ℤ} :
    verify hmac s presented leaseID installID expiresAt = true ↔
      presented = token hmac s leaseID installID expiresAt := by
  constructor
  · intro accepted
    unfold verify at accepted
    split at accepted
    · split at accepted
      · cases accepted
      · split at accepted
        · cases accepted
        · exact of_decide_eq_true accepted
    · cases accepted
  · rintro rfl
    have split : (token hmac s leaseID installID expiresAt).toList.splitOn '.' =
        [(formatInt (unixSeconds expiresAt)).toList, (hexString (hmac s.secret
          (utf8 (fetchTokenPayload leaseID installID (unixSeconds expiresAt))))).toList] := by
      rw [token]
      simp only [String.toList_append]
      rw [List.append_assoc]
      refine (List.splitOn_append_cons_self_of_not_mem (dot_not_mem_formatInt _) _).trans ?_
      exact congrArg (_ :: ·) (List.splitOn_eq_singleton (dot_not_mem_hexString _))
    simp only [verify, split, String.ofList_toList, atoi_formatInt, ne_eq, not_true, if_false, decide_true]

/-- A token is never empty. -/
theorem token_ne_empty {leaseID installID : String} {expiresAt : ℤ} :
    token hmac s leaseID installID expiresAt ≠ "" := by
  intro empty
  have list := congrArg String.toList empty
  simp [token] at list

end AnselmGateway.LeaseSigner
