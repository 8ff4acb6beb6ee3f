import Mathlib.Data.Int.Log
import Mathlib.Data.Rat.Floor
import Mathlib.Algebra.Order.Field.Power
import Mathlib.Tactic.Linarith
import Mathlib.Tactic.FieldSimp
import Mathlib.Tactic.Positivity

/-! Doubles as the rationals they are. A result is the nearest double, the even one of two;
only magnitudes in the normal range are meant. -/
namespace AnselmGateway.Foundation.Float64

/-- The nearest integer, the even one of two. -/
def roundEven (x : ℚ) : ℤ :=
  if x - ⌊x⌋ < 1 / 2 then ⌊x⌋
  else if 1 / 2 < x - ⌊x⌋ then ⌊x⌋ + 1
  else if ⌊x⌋ % 2 = 0 then ⌊x⌋
  else ⌊x⌋ + 1

/-- The distance of two doubles of this magnitude: there are 53 bits. -/
def ulp (q : ℚ) : ℚ := 2 ^ (Int.log 2 |q| - 52)

/-- The double of a rational. -/
def round (q : ℚ) : ℚ := roundEven (q / ulp q) * ulp q

/-! ## Rounding to integers -/

theorem le_roundEven {x : ℚ} {k : ℤ} (below : (k : ℚ) ≤ x) : k ≤ roundEven x := by
  have floor : k ≤ ⌊x⌋ := Int.le_floor.mpr below
  unfold roundEven
  split
  · exact floor
  · split
    · omega
    · split <;> omega

theorem roundEven_le {x : ℚ} {k : ℤ} (above : x ≤ k) : roundEven x ≤ k := by
  have floor : ⌊x⌋ ≤ k := by exact_mod_cast (Int.floor_le x).trans above
  unfold roundEven
  split
  · exact floor
  · rename_i up
    have next : ⌊x⌋ < k := by
      have strict : (⌊x⌋ : ℚ) < k := by linarith
      exact_mod_cast strict
    split
    · omega
    · split <;> omega

theorem roundEven_near (x : ℚ) : x - 1 / 2 ≤ roundEven x := by
  have below := Int.floor_le x
  have above := Int.lt_floor_add_one x
  unfold roundEven
  split
  · linarith
  · split
    · push_cast
      linarith
    · split
      · linarith
      · push_cast
        linarith

theorem roundEven_int (k : ℤ) : roundEven k = k :=
  le_antisymm (roundEven_le le_rfl) (le_roundEven le_rfl)

/-! ## Doubles -/

theorem ulp_pos (q : ℚ) : 0 < ulp q := zpow_pos (by norm_num) _

theorem log_lt {q : ℚ} {t : ℕ} (some_ : 0 < q) (small : q < 2 ^ t) : Int.log 2 |q| < t := by
  rw [abs_of_pos some_]
  by_contra more
  have low := Int.zpow_log_le_self (b := 2) Nat.one_lt_two some_
  have grows : (2 : ℚ) ^ (t : ℤ) ≤ (2 : ℚ) ^ Int.log 2 q := zpow_le_zpow_right₀ (by norm_num) (by omega)
  rw [zpow_natCast] at grows
  rw [Nat.cast_ofNat] at low
  linarith

theorem ulp_le {q : ℚ} {t : ℕ} (some_ : 0 < q) (small : q < 2 ^ t) : ulp q ≤ 2 ^ ((t : ℤ) - 53) := by
  have log := log_lt some_ small
  exact zpow_le_zpow_right₀ (by norm_num) (by omega)

/-- Integers are multiples of the last bit. -/
theorem int_div_ulp {q : ℚ} {t : ℕ} (some_ : 0 < q) (small : q < 2 ^ t) (bits : t ≤ 53) (k : ℤ) :
    ∃ j : ℤ, (k : ℚ) / ulp q = j := by
  have log := log_lt some_ small
  obtain ⟨m, is⟩ : ∃ m : ℕ, Int.log 2 |q| - 52 = -(m : ℤ) := ⟨(52 - Int.log 2 |q|).toNat, by omega⟩
  refine ⟨k * 2 ^ m, ?_⟩
  rw [ulp, is, zpow_neg, zpow_natCast, div_inv_eq_mul]
  push_cast
  rfl

/-- Integers of 53 bits are doubles. -/
theorem round_int {n : ℕ} (small : n < 2 ^ 53) : round n = n := by
  rcases Nat.eq_zero_or_pos n with rfl | positive
  · simp [round, roundEven]
  · have some_ : (0 : ℚ) < n := by exact_mod_cast positive
    obtain ⟨j, whole⟩ := int_div_ulp some_ (by exact_mod_cast small) le_rfl n
    rw [Int.cast_natCast] at whole
    rw [round, whole, roundEven_int, ← whole, div_mul_cancel₀ _ (ulp_pos _).ne']

/-- A quotient of integers that is coarser than the last bit is rounded without passing an
integer. -/
theorem ceil_round_div {n d t : ℕ} (some_ : 0 < n) (divisor : 0 < d) (small : n < d * 2 ^ t) (bits : t ≤ 53)
    (coarse : d ≤ 2 ^ (53 - t)) : ⌈round ((n : ℚ) / d)⌉ = ⌈(n : ℚ) / d⌉ := by
  have positive : (0 : ℚ) < d := by exact_mod_cast divisor
  have quotient : (0 : ℚ) < n / d := div_pos (by exact_mod_cast some_) positive
  have below : (n : ℚ) / d < 2 ^ t := by
    rw [div_lt_iff₀ positive, mul_comm]
    exact_mod_cast small
  have unit := ulp_pos ((n : ℚ) / d)
  have fine : ulp ((n : ℚ) / d) ≤ 1 / d := by
    refine (ulp_le quotient below).trans ?_
    rw [show ((t : ℤ) - 53) = -((53 - t : ℕ) : ℤ) by omega, zpow_neg, zpow_natCast, one_div]
    exact inv_anti₀ positive (by exact_mod_cast coarse)
  obtain ⟨j, upper⟩ := int_div_ulp quotient below bits ⌈(n : ℚ) / d⌉
  rw [Int.ceil_eq_iff]
  constructor
  · -- The next lower integer is at least one part away, and rounding moves by half a bit.
    have near := mul_le_mul_of_nonneg_right (roundEven_near ((n : ℚ) / d / ulp ((n : ℚ) / d))) unit.le
    rw [sub_mul, div_mul_cancel₀ _ unit.ne'] at near
    have apart : (⌈(n : ℚ) / d⌉ : ℚ) - 1 + 1 / d ≤ n / d := by
      have strict : (⌈(n : ℚ) / d⌉ : ℚ) - 1 < n / d := by
        have := Int.ceil_lt_add_one ((n : ℚ) / d)
        linarith
      rw [lt_div_iff₀ positive] at strict
      rw [le_div_iff₀ positive, add_mul, div_mul_cancel₀ _ positive.ne']
      have whole : (⌈(n : ℚ) / d⌉ - 1) * (d : ℤ) + 1 ≤ n := by
        have : (⌈(n : ℚ) / d⌉ - 1) * (d : ℤ) < n := by exact_mod_cast strict
        omega
      exact_mod_cast whole
    have half : 1 / 2 * ulp ((n : ℚ) / d) < 1 / d := by linarith
    change _ < (roundEven _ : ℚ) * _
    linarith
  · have scaled : (n : ℚ) / d / ulp ((n : ℚ) / d) ≤ j := by
      rw [← upper]
      exact div_le_div_of_nonneg_right (Int.le_ceil _) unit.le
    have rounded : (roundEven ((n : ℚ) / d / ulp ((n : ℚ) / d)) : ℚ) ≤ j := by exact_mod_cast roundEven_le scaled
    have back := mul_le_mul_of_nonneg_right rounded unit.le
    rw [← upper, div_mul_cancel₀ _ unit.ne'] at back
    exact back

/-- The ceiling of a quotient, in whole numbers. -/
theorem ceil_div {n d : ℕ} (divisor : 0 < d) : ⌈(n : ℚ) / d⌉ = ((n + d - 1) / d : ℕ) := by
  have positive : (0 : ℚ) < d := by exact_mod_cast divisor
  have low := Nat.div_mul_le_self (n + d - 1) d
  have high := Nat.lt_div_mul_add divisor (a := n + d - 1)
  rw [Int.ceil_eq_iff]
  constructor
  · rw [lt_div_iff₀ positive]
    have whole : (((n + d - 1) / d : ℕ) : ℤ) * d < n + d := by
      have : (n + d - 1) / d * d < n + d := by omega
      exact_mod_cast this
    have cast : ((((n + d - 1) / d : ℕ) : ℤ) : ℚ) * d < n + d := by exact_mod_cast whole
    linarith
  · rw [div_le_iff₀ positive]
    have whole : n ≤ (n + d - 1) / d * d := by omega
    exact_mod_cast whole

end AnselmGateway.Foundation.Float64
