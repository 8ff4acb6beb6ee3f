import Mathlib.Data.Nat.Bitwise
import Mathlib.Tactic.Linarith
import Mathlib.Tactic.Ring
import AnselmGateway.ProofOfWork

/-! What a difficulty means: a digest has that many leading zero bits exactly when, read as
one big-endian number, it is below the matching power of two. -/
namespace AnselmGateway.Difficulty
open Foundation ProofOfWork

/-! ## One byte -/

/-- A byte below a power of two has the bit below it, or is below the next lower power. -/
theorem and_bit_eq_zero_iff {byte : UInt8} {bit : ℕ} (inside : byte.toNat < 2 ^ (bit + 1)) (small : bit < 8) :
    byte &&& UInt8.ofNat (2 ^ bit) = 0 ↔ byte.toNat < 2 ^ bit := by
  have fits : 2 ^ bit < 256 := Nat.pow_lt_pow_right (by decide) small
  rw [← UInt8.toNat_inj, UInt8.toNat_and, UInt8.toNat_ofNat_of_lt' fits, Nat.and_two_pow]
  constructor
  · intro clear
    refine Nat.lt_pow_two_of_testBit _ fun place above => ?_
    rcases Nat.lt_or_eq_of_le above with higher | rfl
    · exact Nat.testBit_lt_two_pow (Nat.lt_of_lt_of_le inside (Nat.pow_le_pow_right (by decide) higher))
    · cases bit_ : byte.toNat.testBit bit with
      | false => rfl
      | true => simp [bit_] at clear
  · intro below
    rw [Nat.testBit_lt_two_pow below]
    simp

/-- The scan over the masks finds the place of the highest bit. -/
theorem le_zeroBitsBelow {byte : UInt8} {bits d : ℕ} (inside : byte.toNat < 2 ^ bits) (small : bits ≤ 8)
    (within : d ≤ bits) : d ≤ zeroBitsBelow byte bits ↔ byte.toNat < 2 ^ (bits - d) := by
  induction bits generalizing d with
  | zero =>
    rw [Nat.le_zero.mp within]
    exact ⟨fun _ => inside, fun _ => Nat.zero_le _⟩
  | succ bit ih =>
    have bit_ := and_bit_eq_zero_iff inside small
    unfold zeroBitsBelow
    cases d with
    | zero => exact ⟨fun _ => inside, fun _ => Nat.zero_le _⟩
    | succ d =>
      rw [Nat.add_sub_add_right]
      split
      · rename_i found
        have above : 2 ^ bit ≤ byte.toNat := Nat.not_lt.mp (mt bit_.mpr found)
        have lower : 2 ^ (bit - d) ≤ 2 ^ bit := Nat.pow_le_pow_right (by decide) (Nat.sub_le _ _)
        exact ⟨nofun, fun below => absurd below (Nat.not_lt.mpr (lower.trans above))⟩
      · rename_i clear
        rw [Nat.succ_le_succ_iff]
        exact ih (bit_.mp (not_not.mp clear)) (by omega) (by omega)

/-! ## A byte string -/

theorem foldl_bigEndian (value : ℕ) (bytes : Bytes) :
    bytes.foldl (fun value byte => value * 256 + byte.toNat) value =
      value * 256 ^ bytes.length + bigEndian bytes := by
  induction bytes generalizing value with
  | nil => simp [bigEndian]
  | cons byte rest ih =>
    rw [bigEndian, List.foldl_cons, List.foldl_cons, ih, ih (0 * 256 + byte.toNat), List.length_cons]
    ring

theorem bigEndian_cons (byte : UInt8) (rest : Bytes) :
    bigEndian (byte :: rest) = byte.toNat * 256 ^ rest.length + bigEndian rest := by
  rw [bigEndian, List.foldl_cons, foldl_bigEndian, Nat.zero_mul, Nat.zero_add]

theorem bigEndian_lt (bytes : Bytes) : bigEndian bytes < 256 ^ bytes.length := by
  induction bytes with
  | nil => simp [bigEndian]
  | cons byte rest ih =>
    have top : (byte.toNat + 1) * 256 ^ rest.length ≤ 256 * 256 ^ rest.length :=
      Nat.mul_le_mul_right _ byte.toNat_lt
    rw [bigEndian_cons, List.length_cons, Nat.pow_succ, Nat.mul_comm _ 256]
    linarith

/-- The first byte alone decides against any bound in whole units of what follows it. -/
theorem bigEndian_cons_lt (byte : UInt8) (rest : Bytes) (bound : ℕ) :
    bigEndian (byte :: rest) < bound * 256 ^ rest.length ↔ byte.toNat < bound := by
  have unit : 0 < 256 ^ rest.length := Nat.pow_pos (by decide)
  rw [bigEndian_cons, ← Nat.div_lt_iff_lt_mul unit, Nat.mul_comm, Nat.mul_add_div unit,
    Nat.div_eq_of_lt (bigEndian_lt rest), Nat.add_zero]

theorem pow_split {length d : ℕ} (within : d ≤ 8) :
    2 ^ (8 * (length + 1) - d) = 2 ^ (8 - d) * 256 ^ length := by
  have parts : 8 * (length + 1) - d = (8 - d) + 8 * length := by omega
  rw [parts, Nat.pow_add, Nat.pow_mul]

theorem le_leadingZeroBits {bytes : Bytes} {d : ℕ} (within : d ≤ 8 * bytes.length) :
    d ≤ leadingZeroBits bytes ↔ bigEndian bytes < 2 ^ (8 * bytes.length - d) := by
  induction bytes generalizing d with
  | nil =>
    rw [Nat.le_zero.mp within]
    simp [leadingZeroBits, bigEndian]
  | cons byte rest ih =>
    rw [List.length_cons] at within ⊢
    unfold leadingZeroBits
    rcases Nat.lt_or_ge 8 d with long | short
    · obtain ⟨e, rfl⟩ : ∃ e, d = e + 8 := ⟨d - 8, by omega⟩
      have further : 8 * (rest.length + 1) - (e + 8) = 8 * rest.length - e := by omega
      rw [further]
      split
      · rename_i zero
        rw [zero, bigEndian_cons, Nat.add_le_add_iff_right]
        simpa using ih (by omega)
      · rename_i nonzero
        have positive : 0 < byte.toNat := Nat.pos_of_ne_zero fun none => nonzero (UInt8.toNat_inj.mp none)
        have some_bit : ¬ 8 ≤ zeroBitsBelow byte 8 := by
          rw [le_zeroBitsBelow byte.toNat_lt (Nat.le_refl 8) (Nat.le_refl 8)]
          simpa using Nat.pos_iff_ne_zero.mp positive
        have large : ¬ bigEndian (byte :: rest) < 1 * 256 ^ rest.length := by
          rw [bigEndian_cons_lt]
          omega
        have lower : 2 ^ (8 * rest.length - e) ≤ 1 * 256 ^ rest.length := by
          rw [Nat.one_mul, show 256 = 2 ^ 8 from rfl, ← Nat.pow_mul]
          exact Nat.pow_le_pow_right (by decide) (Nat.sub_le _ _)
        constructor
        · intro many
          omega
        · intro below
          exact absurd (Nat.lt_of_lt_of_le below lower) large
    · -- The bits asked for are all in this byte.
      rw [pow_split short, bigEndian_cons_lt]
      split
      · rename_i zero
        rw [zero]
        exact ⟨fun _ => Nat.pow_pos (by decide), fun _ => short.trans (Nat.le_add_left _ _)⟩
      · exact le_zeroBitsBelow byte.toNat_lt (Nat.le_refl 8) short

/-- A solution is a digest below a target, which halves with every bit asked for. -/
theorem meetsDifficulty_iff (prim : Primitives) {challenge nonce : Bytes} {difficulty : ℕ}
    (digest : (prim.sha256 (challenge ++ 46 :: nonce)).length = 32) (within : difficulty ≤ 256) :
    meetsDifficulty prim challenge nonce difficulty = true ↔
      bigEndian (prim.sha256 (challenge ++ 46 :: nonce)) < 2 ^ (256 - difficulty) := by
  unfold meetsDifficulty
  rw [decide_eq_true_iff, Int.ofNat_le, le_leadingZeroBits (by omega), digest]

/-- What a difficulty asks of a byte string, as a number. -/
theorem difficulty_is_a_bound (bytes : Bytes) (d : ℤ) (within : d ≤ 8 * bytes.length) :
    d ≤ leadingZeroBits bytes ↔ bigEndian bytes < 2 ^ (8 * bytes.length - d).toNat := by
  rcases lt_or_ge d 0 with negative | natural
  · -- Asking for fewer than none is asking for nothing: every value has the bits it is written in.
    have wide : 8 * bytes.length ≤ (8 * (bytes.length : ℤ) - d).toNat := by omega
    have fits : bigEndian bytes < 2 ^ (8 * bytes.length) := by
      rw [Nat.pow_mul]
      exact bigEndian_lt bytes
    have below := Nat.lt_of_lt_of_le fits (Nat.pow_le_pow_right (by decide) wide)
    exact ⟨fun _ => below, fun _ => by omega⟩
  · obtain ⟨d, rfl⟩ := Int.eq_ofNat_of_zero_le natural
    have exponent : (8 * (bytes.length : ℤ) - d).toNat = 8 * bytes.length - d := by omega
    rw [exponent, Int.ofNat_le]
    exact le_leadingZeroBits (by omega)

/-- Thirteen bits of `00 07 ff`: twelve would not keep it below, fourteen are not there. -/
theorem difficulty_is_a_bound_at :
    (13 : ℤ) ≤ 8 * ([0, 7, 255] : Bytes).length ∧ (13 : ℤ) ≤ leadingZeroBits [0, 7, 255] :=
  ⟨by decide, (difficulty_is_a_bound [0, 7, 255] 13 (by decide)).mpr (by decide)⟩

end AnselmGateway.Difficulty
